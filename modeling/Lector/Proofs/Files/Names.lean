import Lector.Files.Path
import Lector.Proofs.Text.Cutting

/-!
# File names and their parts

A path is a front, which is empty or ends with a slash, and the part that follows its last slash.
The file name is the last part that counts, so that it is the part behind the front or stands
further in front. A file name in turn is a stem and an extension, and it is cut into these in one
way only.

## Main definitions

* `IsFront`: a text that is empty or ends with a slash
* `IsName`: a part that counts and does not lead upwards
* `NameParts`: a file name cut into its stem and its extension with the dot

## Main results

* `fileName?_eq_getLast?`: the file name is the last part between slashes that counts
* `fileName?_append_of_not_idle`: the file name of a path by the part behind its last slash
* `name_or_idle`: a path ends with its file name, or with a part that does not count
* `nameParts_splitName`, `NameParts.unique`: a file name is cut, and in one way only
-/

namespace Lector.Path

variable {path name part front t : Text}

/-! ## The last part that counts -/

/-- The parts between slashes that count. -/
def parts (t : Text) : List Text := (List.splitOn '/' t).filter fun part => !isIdle part

theorem parts_append_cons (t u : Text) : parts (t ++ '/' :: u) = parts t ++ parts u := by
  rw [parts, List.splitOn_append_cons_self, List.filter_append, parts, parts]

theorem parts_of_idle (h : '/' ∉ part) (hidle : isIdle part = true) : parts part = [] := by
  rw [parts, List.splitOn_eq_singleton h]
  simp [hidle]

theorem parts_of_not_idle (h : '/' ∉ part) (hidle : isIdle part = false) : parts part = [part] := by
  rw [parts, List.splitOn_eq_singleton h]
  simp [hidle]

@[simp] theorem parts_nil : parts [] = [] := parts_of_idle (by simp) rfl

theorem map_fst_popLast (t : Text) : (popLast t).map Prod.fst = (parts t).getLast? := by
  fun_induction popLast t with
  | case1 t hcut hidle =>
    rw [parts_of_idle (Text.cutLast?_eq_none_iff.mp hcut) hidle]
    rfl
  | case2 t hcut hidle =>
    rw [parts_of_not_idle (Text.cutLast?_eq_none_iff.mp hcut) (by simpa using hidle)]
    rfl
  | case3 t front part hcut hidle ih =>
    obtain ⟨hpart, rfl⟩ := Text.cutLast?_eq_some_iff.mp hcut
    rw [ih, parts_append_cons, parts_of_idle hpart hidle, List.append_nil]
  | case4 t front part hcut hidle =>
    obtain ⟨hpart, rfl⟩ := Text.cutLast?_eq_some_iff.mp hcut
    rw [parts_append_cons, parts_of_not_idle hpart (by simpa using hidle)]
    simp

/-- What a path starts with is no part that counts. -/
theorem parts_body (path : Text) : parts (body path) = parts path := by
  unfold body lead
  split
  next t => exact (parts_append_cons [] t).symm
  next => rfl
  next t => exact (parts_append_cons ['.'] t).symm
  next => rfl

/-- **The file name is the last part that counts**, unless that leads upwards. -/
theorem fileName?_eq_getLast? (path : Text) :
    fileName? path = (parts path).getLast?.bind fun part =>
      if part = ['.', '.'] then none else some part := by
  rw [← parts_body, ← map_fst_popLast, fileName?]
  cases popLast (body path) <;> rfl

/-! ## Fronts -/

/-- A text is empty or ends with a slash. -/
def IsFront (front : Text) : Prop := front = [] ∨ ∃ t, front = t ++ ['/']

theorem parts_append (hfront : IsFront front) (part : Text) :
    parts (front ++ part) = parts front ++ parts part := by
  rcases hfront with rfl | ⟨t, rfl⟩
  · simp
  · rw [List.append_assoc, List.singleton_append, parts_append_cons, parts_append_cons, parts_nil,
      List.append_nil]

/-- Every path is a front and what follows its last slash. -/
theorem exists_front_append (path : Text) :
    ∃ front part, path = front ++ part ∧ IsFront front ∧ '/' ∉ part := by
  rcases Text.not_mem_or_last '/' path with h | ⟨t, part, rfl, h⟩
  · exact ⟨[], path, rfl, Or.inl rfl, h⟩
  · exact ⟨t ++ ['/'], part, by simp, Or.inr ⟨t, rfl⟩, h⟩

/-- A path has one front. -/
theorem front_unique {front' part' : Text} (hfront : IsFront front) (hfront' : IsFront front')
    (h : '/' ∉ part) (h' : '/' ∉ part') (he : front ++ part = front' ++ part') :
    front = front' ∧ part = part' := by
  rcases hfront with rfl | ⟨t, rfl⟩ <;> rcases hfront' with rfl | ⟨t', rfl⟩
  · exact ⟨rfl, he⟩
  · have hpart : part = t' ++ '/' :: part' := by simpa using he
    exact absurd (by simp [hpart]) h
  · have hpart' : part' = t ++ '/' :: part := by simpa using he.symm
    exact absurd (by simp [hpart']) h'
  · obtain ⟨rfl, rfl⟩ := Text.eq_of_append_cons_eq h h' (by simpa using he)
    exact ⟨rfl, rfl⟩

/-! ## File names -/

/-- A text can be a file name: it is a part that counts and does not lead upwards. -/
structure IsName (name : Text) : Prop where
  no_slash : '/' ∉ name
  counts : isIdle name = false
  not_upwards : name ≠ ['.', '.']

theorem IsName.ne_nil (h : IsName name) : name ≠ [] := by
  rintro rfl
  cases h.counts

theorem IsName.ne_dot (h : IsName name) : name ≠ ['.'] := by
  rintro rfl
  cases h.counts

@[simp] theorem fileName?_nil : fileName? [] = none := by
  rw [fileName?_eq_getLast?, parts_nil]
  rfl

/-- A part that does not count names no path: the name is the one of the front. -/
theorem fileName?_append_of_idle (hfront : IsFront front) (h : '/' ∉ part)
    (hidle : isIdle part = true) : fileName? (front ++ part) = fileName? front := by
  rw [fileName?_eq_getLast?, fileName?_eq_getLast?, parts_append hfront, parts_of_idle h hidle,
    List.append_nil]

/-- **A part that counts names the path that ends with it**, unless it leads upwards. -/
theorem fileName?_append_of_not_idle (hfront : IsFront front) (h : '/' ∉ part)
    (hidle : isIdle part = false) :
    fileName? (front ++ part) = if part = ['.', '.'] then none else some part := by
  rw [fileName?_eq_getLast?, parts_append hfront, parts_of_not_idle h hidle,
    List.getLast?_append_of_ne_nil _ (by simp)]
  rfl

theorem IsName.fileName?_append (h : IsName name) (hfront : IsFront front) :
    fileName? (front ++ name) = some name := by
  rw [fileName?_append_of_not_idle hfront h.no_slash h.counts, if_neg h.not_upwards]

/-- The file name is among the parts that count. -/
theorem isName_of_fileName? (h : fileName? path = some name) : IsName name := by
  rw [fileName?_eq_getLast?, Option.bind_eq_some_iff] at h
  obtain ⟨part, hlast, hpart⟩ := h
  split at hpart
  · cases hpart
  next hup =>
    obtain rfl : part = name := by simpa using hpart
    obtain ⟨hmem, hcounts⟩ := List.mem_filter.mp (List.mem_of_getLast? hlast)
    exact ⟨Text.not_mem_of_mem_splitOn hmem, by simpa using hcounts, hup⟩

/-- **A path ends with its file name**, or else with a part that does not count and a slash in front
of it. -/
theorem name_or_idle (h : fileName? path = some name) :
    (∃ front, IsFront front ∧ path = front ++ name) ∨
      ∃ t part, isIdle part = true ∧ path = t ++ '/' :: part ∧
        fileName? (t ++ ['/']) = some name := by
  obtain ⟨front, part, rfl, hfront, hpart⟩ := exists_front_append path
  cases hidle : isIdle part with
  | true =>
    rw [fileName?_append_of_idle hfront hpart hidle] at h
    rcases hfront with rfl | ⟨t, rfl⟩
    · cases fileName?_nil.symm.trans h
    · exact Or.inr ⟨t, part, hidle, by simp, h⟩
  | false =>
    rw [fileName?_append_of_not_idle hfront hpart hidle] at h
    split at h
    · cases h
    · cases h
      exact Or.inl ⟨front, hfront, rfl⟩

/-- Behind the last slash of a path that does not end with its file name, there is a dot at most. -/
theorem eq_of_suffix_of_idle {u : Text} (hidle : isIdle part = true) (h : u <:+ t ++ '/' :: part)
    (hslash : '/' ∉ u) : u = [] ∨ u = ['.'] ∧ part = ['.'] := by
  have hu := Text.suffix_of_suffix_append_cons h hslash
  have hpart : part = [] ∨ part = ['.'] := by simpa [isIdle] using hidle
  rcases hpart with rfl | rfl
  · exact Or.inl (List.suffix_nil.mp hu)
  · rcases List.suffix_cons_iff.mp hu with rfl | hu
    · exact Or.inr ⟨rfl, rfl⟩
    · exact Or.inl (List.suffix_nil.mp hu)

/-- A path that goes on behind its file name does not end with it. -/
theorem IsName.not_suffix_of_idle (hname : IsName name) (hidle : isIdle part = true) :
    ¬ name <:+ t ++ '/' :: part := by
  intro h
  rcases eq_of_suffix_of_idle hidle h hname.no_slash with h | ⟨h, -⟩
  · exact hname.ne_nil h
  · exact hname.ne_dot h

theorem exists_front_of_suffix (h : fileName? path = some name) (hend : name <:+ path) :
    ∃ front, IsFront front ∧ path = front ++ name := by
  have hname := isName_of_fileName? h
  rcases name_or_idle h with hfront | ⟨t, part, hidle, rfl, -⟩
  · exact hfront
  · exact absurd hend (hname.not_suffix_of_idle hidle)

/-! ## Stems and extensions -/

/-- A file name is a stem and an extension with its dot. A dot in front is part of the stem. -/
inductive NameParts : Text → Text → Text → Prop
  /-- Without a dot behind the first character there is no extension. -/
  | bare {name : Text} (h : '.' ∉ name.tail) : NameParts name name []
  /-- The extension starts at the last dot. -/
  | dotted {stem extension : Text} (hstem : stem ≠ []) (h : '.' ∉ extension) :
      NameParts (stem ++ '.' :: extension) stem ('.' :: extension)

namespace NameParts

variable {stem extension : Text}

theorem append_eq (h : NameParts name stem extension) : stem ++ extension = name := by
  cases h with
  | bare h => exact List.append_nil _
  | dotted hstem h => rfl

theorem stem_ne_nil (h : NameParts name stem extension) (hname : name ≠ []) : stem ≠ [] := by
  cases h with
  | bare h => exact hname
  | dotted hstem h => exact hstem

/-- A name with an extension has a dot behind its first character. -/
theorem mem_tail_of_dotted (hstem : stem ≠ []) : '.' ∈ (stem ++ '.' :: extension).tail := by
  obtain ⟨c, stem, rfl⟩ := List.exists_cons_of_ne_nil hstem
  simp

/-- **A file name is cut into its stem and its extension in one way only.** -/
theorem unique {stem' extension' : Text} (h : NameParts name stem extension)
    (h' : NameParts name stem' extension') : stem = stem' ∧ extension = extension' := by
  generalize hname : name = name' at h'
  cases h with
  | bare h =>
    cases h' with
    | bare h' => exact ⟨hname, rfl⟩
    | dotted hstem' h' => exact absurd (hname ▸ mem_tail_of_dotted hstem') h
  | dotted hstem h =>
    cases h' with
    | bare h' => exact absurd (hname ▸ mem_tail_of_dotted hstem) h'
    | dotted hstem' h' =>
      obtain ⟨rfl, rfl⟩ := Text.eq_of_append_cons_eq h h' hname
      exact ⟨rfl, rfl⟩

end NameParts

/-- **Every name has its stem and its extension**, where they are told apart in a path. -/
theorem nameParts_splitName (name : Text) :
    NameParts name (splitName name).1 (((splitName name).2.map ('.' :: ·)).getD []) := by
  unfold splitName
  split
  next stem extension hcut =>
    obtain ⟨hdot, rfl⟩ := Text.cutLast?_eq_some_iff.mp hcut
    cases stem with
    | nil => exact .bare hdot
    | cons c stem => exact .dotted (by simp) hdot
  next hcut =>
    have hdot : '.' ∉ name := Text.cutLast?_eq_none_iff.mp hcut
    exact .bare fun h => hdot (List.mem_of_mem_tail h)

end Lector.Path
