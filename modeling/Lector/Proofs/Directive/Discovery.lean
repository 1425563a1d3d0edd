import Mathlib
import Lector.Directive.Registry

/-!
# Discovery lays files over a registry

Discovery registers the rule files that a walk comes upon, one after another, each under its path and
under the name of its directive. Keys may be written again and again: by files with the same name, by
a file whose path is the name of another, and where there was an entry before. What counts in the end
is the last file that writes a key. If a file does not load, or if the walk comes upon a link that
leads nowhere, discovery ends there, and what the files before have written stays.

## Main definitions

* `Registry.ruleFiles`: the rule files among what a walk comes upon
* `Registry.Overlays`: a registry with rule files laid over another
* `Registry.Clear`: nothing on a walk ends discovery
* `Registry.Stops`: what ends discovery, and with which error

## Main results

* `Registry.registerFound_append`: what a clear part of a walk does to a registry
* `Registry.discover_overlays`: discovery is an ordered overlay, up to the first failure
-/

namespace Lector

open Files (Found)

namespace Registry

/-! ## Rule files and what they write -/

/-- The rule files among what a walk comes upon, in the order of the walk. -/
def ruleFiles (found : List Found) : List Text :=
  found.filterMap fun
    | .file path => if Directive.isDiscoverable path then some path else none
    | .directory _ | .loop _ | .fault _ _ => none

/-- What a rule file writes under a key: its rules, if the key is its path or the name of its
directive. -/
def entryOf (files : Files) (key path : Text) : Option Directive :=
  match Source.load files path none none with
  | .ok rules =>
    if key = path ∨ key = rules.name then some (.operations rules.operations) else none
  | .error _ => none

/-- A registry has rule files laid over another one: under each key stands what the last of the
files writes there that writes anything there, and what stood there before if none does. -/
def Overlays (files : Files) (paths : List Text) (r r' : Registry) : Prop :=
  ∀ key, r'.get? key = (paths.reverse.findSome? (entryOf files key)).or (r.get? key)

/-- Nothing on a walk ends discovery: every rule file loads, and no link leads nowhere. -/
structure Clear (files : Files) (found : List Found) : Prop where
  no_fault : ∀ path fault, Found.fault path fault ∉ found
  loads : ∀ path ∈ ruleFiles found, ∃ rules, Source.load files path none none = .ok rules

/-- What a walk comes upon ends discovery with an error: a link that leads nowhere, or a rule file
that does not load. -/
inductive Stops (files : Files) : Found → Error → Prop
  | fault (path : Text) (fault : IoFault) :
      Stops files (.fault path fault) (.io path (.entry path fault))
  | load {path : Text} {e : Error} (hd : Directive.isDiscoverable path = true)
      (h : Source.load files path none none = .error e) : Stops files (.file path) e

variable {files : Files} {found before after : List Found} {item : Found} {paths : List Text}
  {r r' r'' : Registry} {path : Text} {rules : Source.Rules} {e : Error}

@[simp] theorem ruleFiles_nil : ruleFiles [] = [] := rfl

theorem ruleFiles_file (hd : Directive.isDiscoverable path = true) :
    ruleFiles (.file path :: found) = path :: ruleFiles found := by
  simp [ruleFiles, hd]

theorem ruleFiles_other_file (hd : ¬ Directive.isDiscoverable path = true) :
    ruleFiles (.file path :: found) = ruleFiles found := by
  simp [ruleFiles, hd]

theorem entryOf_of_load (h : Source.load files path none none = .ok rules) (key : Text) :
    entryOf files key path =
      if key = path ∨ key = rules.name then some (.operations rules.operations) else none := by
  simp [entryOf, h]

/-! ## Overlays -/

theorem Overlays.nil (r : Registry) : Overlays files [] r r := by
  intro key
  simp

/-- A file is laid under those that are laid over the registry with it. -/
theorem Overlays.cons (h : Source.load files path none none = .ok rules)
    (ho : Overlays files paths (addFile path rules r) r') : Overlays files (path :: paths) r r' := by
  intro key
  -- The first file of the walk is asked last, right before the registry.
  rw [ho key, get?_addFile, List.reverse_cons, List.findSome?_append, List.findSome?_singleton,
    entryOf_of_load h, Option.or_assoc]
  by_cases hk : key = path ∨ key = rules.name
  · simp [hk]
  · simp [hk]

/-- Laying the same files over a registry again changes no entry. -/
theorem Overlays.again (h : Overlays files paths r r') (h' : Overlays files paths r' r'')
    (key : Text) : r''.get? key = r'.get? key := by
  rw [h' key, h key]
  cases paths.reverse.findSome? (entryOf files key) with
  | none => rfl
  | some d => rfl

/-! ## Walks up to the first failure -/

theorem Clear.nil : Clear files [] := ⟨by simp, by simp⟩

theorem Clear.tail (h : Clear files (item :: found)) : Clear files found := by
  refine ⟨fun path fault hm => h.no_fault path fault (List.mem_cons_of_mem _ hm), ?_⟩
  intro path hp
  refine h.loads path ?_
  unfold ruleFiles at hp ⊢
  rw [List.filterMap_cons]
  split
  · exact hp
  · exact List.mem_cons_of_mem _ hp

/-- What does not end discovery may stand in front. -/
theorem Clear.cons (hi : ∀ e, ¬ Stops files item e) (h : Clear files found) :
    Clear files (item :: found) := by
  refine ⟨?_, ?_⟩
  · intro path fault hm
    rcases List.mem_cons.mp hm with rfl | hm
    · exact hi _ (.fault path fault)
    · exact h.no_fault path fault hm
  · intro path hp
    cases item with
    | file q =>
      by_cases hd : Directive.isDiscoverable q = true
      · rw [ruleFiles_file hd] at hp
        rcases List.mem_cons.mp hp with rfl | hp
        · cases hl : Source.load files path none none with
          | ok rules => exact ⟨rules, rfl⟩
          | error e => exact absurd (.load hd hl) (hi e)
        · exact h.loads path hp
      · rw [ruleFiles_other_file hd] at hp
        exact h.loads path hp
    | directory q => exact h.loads path hp
    | loop q => exact h.loads path hp
    | fault q fault => exact h.loads path hp

/-- A walk that is not clear has a first place that ends discovery. -/
theorem exists_stops_of_not_clear (h : ¬ Clear files found) :
    ∃ before item after e, found = before ++ item :: after ∧ Clear files before ∧
      Stops files item e := by
  induction found with
  | nil => exact absurd Clear.nil h
  | cons item found ih =>
    by_cases hi : ∃ e, Stops files item e
    · obtain ⟨e, he⟩ := hi
      exact ⟨[], item, found, e, rfl, Clear.nil, he⟩
    · have hi' : ∀ e, ¬ Stops files item e := fun e he => hi ⟨e, he⟩
      obtain ⟨before, item', after, e, rfl, hb, he⟩ := ih fun hc => h (hc.cons hi')
      exact ⟨item :: before, item', after, e, rfl, hb.cons hi', he⟩

/-! ## Registration along a walk -/

theorem registerFile_of_load (h : Source.load files path none none = .ok rules) :
    registerFile files path r = .ok (rules.name, addFile path rules r) := by
  simp [registerFile, h]

theorem registerFile_of_load_error (h : Source.load files path none none = .error e) :
    registerFile files path r = .error e := by
  simp [registerFile, h]

/-- **Registration along a clear part of a walk** counts its rule files and lays them over the
registry, whatever follows. -/
theorem registerFound_append (h : Clear files before) (count : Nat) (r : Registry) :
    ∃ r', Overlays files (ruleFiles before) r r' ∧ ∀ after,
      registerFound files (before ++ after) count r =
        registerFound files after (count + (ruleFiles before).length) r' := by
  -- Along the walk, each rule file goes into the registry that the rest is laid over.
  induction before generalizing count r with
  | nil => exact ⟨r, Overlays.nil r, fun after => rfl⟩
  | cons item before ih =>
    cases item with
    | file path =>
      by_cases hd : Directive.isDiscoverable path = true
      · obtain ⟨rules, hl⟩ := h.loads path (by simp [ruleFiles_file hd])
        obtain ⟨r', ho, hr⟩ := ih h.tail (count + 1) (addFile path rules r)
        rw [ruleFiles_file hd]
        refine ⟨r', ho.cons hl, fun after => ?_⟩
        rw [List.cons_append, registerFound, if_pos hd, registerFile_of_load hl]
        refine (hr after).trans ?_
        rw [List.length_cons, Nat.add_assoc, Nat.add_comm 1]
      · obtain ⟨r', ho, hr⟩ := ih h.tail count r
        rw [ruleFiles_other_file hd]
        refine ⟨r', ho, fun after => ?_⟩
        rw [List.cons_append, registerFound, if_neg hd, hr after]
    | directory path => exact ih h.tail count r
    | loop path => exact ih h.tail count r
    | fault path fault => exact absurd (List.mem_cons_self ..) (h.no_fault path fault)

/-- Registration ends with the error of what ends it, and leaves the registry as it is then. -/
theorem registerFound_of_stops (h : Stops files item e) (count : Nat) (r : Registry) :
    registerFound files (item :: after) count r = (.error e, r) := by
  cases h with
  | fault path fault => rfl
  | load hd hl => rw [registerFound, if_pos hd, registerFile_of_load_error hl]

theorem exists_registerFound_of_clear (h : Clear files found) (r : Registry) :
    ∃ r', registerFound files found 0 r = (.ok (ruleFiles found).length, r') ∧
      Overlays files (ruleFiles found) r r' := by
  obtain ⟨r', ho, hr⟩ := registerFound_append h 0 r
  refine ⟨r', ?_, ho⟩
  have hend := hr []
  rwa [List.append_nil, Nat.zero_add] at hend

theorem exists_registerFound_of_stops (after : List Found) (hb : Clear files before)
    (he : Stops files item e) (r : Registry) :
    ∃ r', registerFound files (before ++ item :: after) 0 r = (.error e, r') ∧
      Overlays files (ruleFiles before) r r' := by
  obtain ⟨r', ho, hr⟩ := registerFound_append hb 0 r
  refine ⟨r', ?_, ho⟩
  rw [hr, registerFound_of_stops he]

/-! ## Discovery -/

variable {directory : Text}

theorem discover_of_walk (h : files.walk directory = some found) (r : Registry) :
    discover files directory r = registerFound files found 0 r := by
  simp [discover, h]

/-- **Discovery is an ordered overlay, up to the first failure.** Without a directory there is
nothing to discover, and nothing changes. Along a clear walk all rule files are counted and laid over
the registry in the order of the walk; to do so again changes nothing. Along any other walk the first
place that ends discovery decides the error, and exactly the rule files before it are laid over the
registry. A registry made of a directory is the same overlay on the empty registry, and after a
failure there is none. -/
theorem discover_overlays (files : Files) (directory : Text) (r : Registry) :
    (files.walk directory = none →
      discover files directory r = (.error (.io directory .noDirectory), r) ∧
        ofDirectory files directory = .error (.io directory .noDirectory)) ∧
    ∀ found, files.walk directory = some found →
      (Clear files found →
        (∃ r', discover files directory r = (.ok (ruleFiles found).length, r') ∧
          Overlays files (ruleFiles found) r r' ∧
          ∃ r'', discover files directory r' = (.ok (ruleFiles found).length, r'') ∧
            ∀ key, r''.get? key = r'.get? key) ∧
        ∃ r', ofDirectory files directory = .ok r' ∧
          Overlays files (ruleFiles found) Table.empty r') ∧
      (¬ Clear files found →
        ∃ before item after e, found = before ++ item :: after ∧ Clear files before ∧
          Stops files item e ∧
          (∃ r', discover files directory r = (.error e, r') ∧
            Overlays files (ruleFiles before) r r') ∧
          ofDirectory files directory = .error e) := by
  refine ⟨?_, ?_⟩
  · intro hw
    simp [discover, ofDirectory, hw]
  intro found hw
  refine ⟨?_, ?_⟩
  · intro hc
    -- The same walk three times: over the registry, over what that gives, and over the empty one.
    obtain ⟨r', hr', ho'⟩ := exists_registerFound_of_clear hc r
    obtain ⟨r'', hr'', ho''⟩ := exists_registerFound_of_clear hc r'
    obtain ⟨r₀, hr₀, ho₀⟩ := exists_registerFound_of_clear hc Table.empty
    rw [← discover_of_walk hw] at hr' hr'' hr₀
    refine ⟨⟨r', hr', ho', r'', hr'', ho'.again ho''⟩, r₀, ?_, ho₀⟩
    rw [ofDirectory, hr₀]
  · intro hc
    obtain ⟨before, item, after, e, rfl, hb, he⟩ := exists_stops_of_not_clear hc
    obtain ⟨r', hr', ho'⟩ := exists_registerFound_of_stops after hb he r
    obtain ⟨r₀, hr₀, -⟩ := exists_registerFound_of_stops after hb he Table.empty
    rw [← discover_of_walk hw] at hr' hr₀
    refine ⟨before, item, after, e, rfl, hb, he, ⟨r', hr', ho'⟩, ?_⟩
    rw [ofDirectory, hr₀]

/-- A directory with a rule file, another one of that name in a directory below, and a link back. -/
def shelf : Files :=
  (((((Files.mk Table.empty []).set [['d']] .directory).set [['d'], ['a']] (.file .empty)).set
    [['d'], ['b']] .directory).set [['d'], ['b'], ['a']] (.file .empty)).set
    [['d'], ['l']] (.link ['.'])

/-- The same directory with a link that leads nowhere. -/
def brokenShelf : Files := shelf.set [['d'], ['m']] (.link ['n'])

/-- What the walk through the directory comes upon. -/
def shelfFound : List Found :=
  [.directory ['d'], .file ['d', '/', 'a'], .directory ['d', '/', 'b'],
    .file ['d', '/', 'b', '/', 'a'], .loop ['d', '/', 'l']]

/-- A registry with the rules of an older file under a name of the directory and under another. -/
def olderRules : Registry :=
  let older : Directive := .operations [⟨['x'], ['y'], none, .literal⟩]
  (Table.empty.insert ['a'] older).insert ['z'] older

/-- The files of the directory are laid over the entry of their name, and over no other; a link that
leads nowhere ends discovery. -/
theorem discover_shelf :
    (shelf.walk ['d'] = some shelfFound ∧ Clear shelf shelfFound ∧
      ∃ r', discover shelf ['d'] olderRules = (.ok 2, r') ∧
        r'.get? ['a'] = some (.operations []) ∧ r'.get? ['z'] = olderRules.get? ['z']) ∧
    ∃ found, brokenShelf.walk ['d'] = some found ∧ ¬ Clear brokenShelf found ∧
      ∃ e r', discover brokenShelf ['d'] olderRules = (.error e, r') := by
  have hwalk : shelf.walk ['d'] = some shelfFound := by cbv
  have hfiles : ruleFiles shelfFound = [['d', '/', 'a'], ['d', '/', 'b', '/', 'a']] := by cbv
  have hfirst : Source.load shelf ['d', '/', 'a'] none none = .ok ⟨['a'], []⟩ := by cbv
  have hsecond : Source.load shelf ['d', '/', 'b', '/', 'a'] none none = .ok ⟨['a'], []⟩ := by cbv
  have hbroken : brokenShelf.walk ['d'] =
      some (shelfFound ++ [.fault ['d', '/', 'm'] .notFound]) := by cbv
  have hclear : Clear shelf shelfFound := by
    refine ⟨by simp [shelfFound], ?_⟩
    intro path hp
    simp only [hfiles, List.mem_cons, List.not_mem_nil, or_false] at hp
    rcases hp with rfl | rfl
    · exact ⟨_, hfirst⟩
    · exact ⟨_, hsecond⟩
  have hfault : ¬ Clear brokenShelf (shelfFound ++ [.fault ['d', '/', 'm'] .notFound]) := by
    intro hc
    exact hc.no_fault ['d', '/', 'm'] .notFound (by simp)
  refine ⟨⟨hwalk, hclear, ?_⟩, _, hbroken, hfault, ?_⟩
  · obtain ⟨⟨r', hr', ho, -⟩, -⟩ :=
      ((discover_overlays shelf ['d'] olderRules).2 _ hwalk).1 hclear
    rw [hfiles] at hr' ho
    refine ⟨r', hr', ?_, ?_⟩
    · rw [ho]
      simp [entryOf_of_load hsecond]
    · rw [ho]
      simp [List.findSome?, entryOf_of_load hfirst, entryOf_of_load hsecond]
  · obtain ⟨before, item, after, e, -, -, -, ⟨r', hr', -⟩, -⟩ :=
      ((discover_overlays brokenShelf ['d'] olderRules).2 _ hbroken).2 hfault
    exact ⟨e, r', hr'⟩

end Registry

end Lector
