import Lector.Files.Basic

/-!
# Walks through directories

A walk visits a directory and everything below it. It goes into a directory before it goes on to
the next name, takes the names in order, and follows links. A link that leads back to a directory
that the walk is in is told as a loop and not followed; a link that leads nowhere is a fault.

## Main definitions

* `Files.Found` - what a walk comes upon.
* `Files.walkFrom` - the walk below a location.
* `Files.walk` - the walk from the directory at a path.
-/

namespace Lector

/-- What a walk comes upon, with the path on which it came there. -/
inductive Files.Found
  | file (path : Text)
  | directory (path : Text)
  /-- A link back to a directory that the walk is in. -/
  | loop (path : Text)
  /-- A link that cannot be followed. -/
  | fault (path : Text) (fault : IoFault)
  deriving DecidableEq, Repr

namespace Files

def holdsDirectory (s : Files) (l : Location) : Bool :=
  match s.get? l with
  | some .directory => true
  | _ => false

def directories (s : Files) : List Location := ([] :: s.entries.keys).filter s.holdsDirectory

def depth (s : Files) : Nat := (s.entries.keys.map List.length).foldr max 0

def otherDirectories (s : Files) (above : List Location) : List Location :=
  s.directories.filter fun l => l ∉ above

theorem mem_directories {s : Files} {l : Location} (h : s.get? l = some .directory) :
    l ∈ s.directories := by
  refine List.mem_filter.mpr ⟨?_, by simp [holdsDirectory, h]⟩
  by_cases hl : l = []
  · simp [hl]
  · rw [get?, if_neg hl] at h
    exact List.mem_cons_of_mem _ ((Table.mem_keys_iff _ _).mpr (by simp [h]))

theorem le_foldr_max {n : Nat} {ns : List Nat} (h : n ∈ ns) : n ≤ ns.foldr max 0 := by
  induction ns with
  | nil => simp at h
  | cons m ns ih =>
    rcases List.mem_cons.mp h with rfl | h
    · exact Nat.le_max_left _ _
    · exact Nat.le_trans (ih h) (Nat.le_max_right _ _)

theorem length_le_depth {s : Files} {l : Location} (h : s.get? l = some .directory) :
    l.length ≤ s.depth := by
  by_cases hl : l = []
  · simp [hl]
  · rw [get?, if_neg hl] at h
    refine le_foldr_max (List.mem_map_of_mem ((Table.mem_keys_iff _ _).mpr ?_))
    simp [h]

theorem otherDirectories_cons (s : Files) (l : Location) (above : List Location) :
    s.otherDirectories (l :: above) = (s.otherDirectories above).filter fun m => m ≠ l := by
  simp only [otherDirectories, List.filter_filter]
  congr 1
  funext m
  simp

theorem length_otherDirectories_le (s : Files) (l : Location) (above : List Location) :
    (s.otherDirectories (l :: above)).length ≤ (s.otherDirectories above).length := by
  rw [otherDirectories_cons]
  exact List.length_filter_le _ _

theorem length_otherDirectories_lt {s : Files} {l : Location} {above : List Location}
    (h : s.get? l = some .directory) (ha : l ∉ above) :
    (s.otherDirectories (l :: above)).length < (s.otherDirectories above).length := by
  rw [otherDirectories_cons, List.length_filter_lt_length_iff_exists]
  exact ⟨l, List.mem_filter.mpr ⟨mem_directories h, by simpa using ha⟩, by simp⟩

/-- The walk below the directory at a location, to which a path leads. The directories that the walk
is in are given; it ends because links lead only to others and names only downwards. -/
def walkFrom (s : Files) (above : List Location) (path : Text) (l : Location) : List Found :=
  (s.namesIn l).flatMap fun name =>
    match _h : s.get? (l ++ [name]) with
    | none => []
    | some (.file _) => [.file (Path.join path name)]
    | some .directory =>
      .directory (Path.join path name) ::
        walkFrom s ((l ++ [name]) :: above) (Path.join path name) (l ++ [name])
    | some (.link _) =>
      match s.locate false (Path.join path name) with
      | .error fault => [.fault (Path.join path name) fault]
      | .ok target =>
        match _ht : s.get? target with
        | none => [.fault (Path.join path name) .notFound]
        | some (.file _) => [.file (Path.join path name)]
        | some (.link _) => []
        | some .directory =>
          if _ha : target ∈ above then [.loop (Path.join path name)]
          else .directory (Path.join path name) ::
            walkFrom s (target :: above) (Path.join path name) target
termination_by ((s.otherDirectories above).length, s.depth + 1 - l.length)
decreasing_by
  · have hd := length_le_depth _h
    have ho := length_otherDirectories_le s (l ++ [name]) above
    simp only [List.length_append, List.length_singleton] at hd
    rcases Nat.lt_or_eq_of_le ho with hlt | heq
    · exact Prod.Lex.left _ _ hlt
    · rw [heq]
      refine Prod.Lex.right _ ?_
      simp only [List.length_append, List.length_singleton]
      omega
  · exact Prod.Lex.left _ _ (length_otherDirectories_lt _ht _ha)

/-- The walk from the directory at a path, or nothing if there is none. -/
def walk (s : Files) (path : Text) : Option (List Found) :=
  match s.locate false path with
  | .error _ => none
  | .ok l =>
    match s.get? l with
    | some .directory => some (.directory path :: s.walkFrom [l] path l)
    | _ => none

end Files

end Lector
