import Lector.Files.Basic

/-!
# What a write leaves as it was

Where a path leads depends on the directories and links alone. A write puts a file where there was
a file or nothing, so that afterwards every path leads where it led before, and every file that the
path of the write does not lead to is as it was.

## Main definitions

* `Files.IsTree`: everything but the root is in a directory
* `Files.Leads`: the parts of a path lead from a location to another
* `Files.Same`: two states of the files are the same at every location
* `Files.SameWays`: two states of the files have the same directories and links
* `Files.Takes`: a path leads to a location where a file can be written
* `Files.Meet`: two paths lead to the same location

## Main results

* `Files.SameWays.locate_iff`: paths lead the same way past the same directories and links
* `Files.write_eq_ok_iff`: when a write succeeds and what it does
* `Files.Takes.isTree_set`, `Files.Takes.sameWays`: a write keeps the tree and where paths lead
* `Files.readText_of_get?`: what was written is read back
* `Files.Takes.readText_iff`: a write elsewhere leaves a file as it was
-/

namespace Lector

theorem Text.splitAtChar_ne_nil (mark : Char) (t : Text) : splitAtChar mark t ≠ [] := by
  cases t with
  | nil => simp [splitAtChar]
  | cons c t =>
    unfold splitAtChar
    split
    · simp
    · split <;> simp

namespace Files

variable {s s' : Files} {l m : Location} {p q t : Text} {creating : Bool} {links : Nat}
  {part : Text} {parts : List Text} {b : ByteArray}

/-- Everything but the root is in a directory. -/
def IsTree (s : Files) : Prop :=
  ∀ l part, (s.get? (l ++ [part])).isSome → s.get? l = some .directory

/-- Two states of the files are the same at every location. -/
structure Same (s s' : Files) : Prop where
  here : s.here = s'.here
  get? (l : Location) : s.get? l = s'.get? l

@[simp] theorem get?_nil (s : Files) : s.get? [] = some .directory := rfl

theorem IsTree.dropLast (hs : s.IsTree) (h : (s.get? l).isSome) :
    s.get? l.dropLast = some .directory := by
  rcases List.eq_nil_or_concat l with rfl | ⟨m, part, rfl⟩
  · rfl
  · rw [List.concat_eq_append] at h ⊢
    rw [List.dropLast_concat]
    exact hs m part h

theorem isTree_empty (here : Location) : IsTree ⟨Table.empty, here⟩ := by
  intro l part h
  simp [get?] at h

/-- Something new in a directory keeps the tree. -/
theorem IsTree.set (hs : s.IsTree) (hl : s.get? l = some .directory)
    (hpart : s.get? (l ++ [part]) = none) (e : Entry) : (s.set (l ++ [part]) e).IsTree := by
  have hget := get?_set s (List.append_ne_nil_of_right_ne_nil l (List.cons_ne_nil part [])) e
  intro m part' hm
  have hdirectory : s.get? m = some .directory := by
    rw [hget] at hm
    split at hm
    · next heq =>
      obtain ⟨rfl, -⟩ := List.append_inj' heq rfl
      exact hl
    · exact hs m part' hm
  rw [hget, if_neg ?_, hdirectory]
  rintro rfl
  cases hdirectory.symm.trans hpart

/-! ## Where paths lead -/

section Leading

/-- A part of a path that is the name of something: it does not lead upwards or nowhere, is not too
long, and has no slash behind it if it is to be created. -/
structure IsName (creating : Bool) (part : Text) (parts : List Text) : Prop where
  counts : ¬ Path.isIdle part = true
  down : part ≠ ['.', '.']
  short : ¬ nameLimit < byteSize part
  bare : ¬ (creating = true ∧ parts ≠ [] ∧ parts.all List.isEmpty = true)

/-- The parts of a path lead from a location to another. -/
inductive Leads (s : Files) (creating : Bool) : Nat → Location → List Text → Location → Prop
  | here {links : Nat} {l : Location} : Leads s creating links l [] l
  | idle {links : Nat} {l m : Location} {part : Text} {parts : List Text}
      (hl : s.get? l = some .directory) (hpart : Path.isIdle part = true)
      (h : Leads s creating links l parts m) : Leads s creating links l (part :: parts) m
  | up {links : Nat} {l m : Location} {parts : List Text} (hl : s.get? l = some .directory)
      (h : Leads s creating links l.dropLast parts m) :
      Leads s creating links l (['.', '.'] :: parts) m
  | link {links : Nat} {l m : Location} {part target : Text} {parts : List Text}
      (hl : s.get? l = some .directory) (hpart : IsName creating part parts)
      (hlink : s.get? (l ++ [part]) = some (.link target)) (htarget : ¬ target.isEmpty = true)
      (h : Leads s creating links (origin l target) (Text.splitAtChar '/' target ++ parts) m) :
      Leads s creating (links + 1) l (part :: parts) m
  | down {links : Nat} {l m : Location} {part : Text} {parts : List Text}
      (hl : s.get? l = some .directory) (hpart : IsName creating part parts)
      (hlink : ∀ target, s.get? (l ++ [part]) ≠ some (.link target))
      (h : Leads s creating links (l ++ [part]) parts m) :
      Leads s creating links l (part :: parts) m

theorem leads_of_follow (h : s.follow creating links l parts = .ok m) :
    Leads s creating links l parts m := by
  fun_induction follow s creating links l parts with
  | case1 => cases h; exact .here
  | case5 links l part parts hl hidle ih => exact .idle hl hidle (ih h)
  | case6 links l parts hl hidle ih => exact .up hl (ih h)
  | case11 l part parts hl hidle hup hlong hbare target hlink links hempty ih =>
    exact .link hl ⟨hidle, hup, hlong, hbare⟩ hlink hempty (ih h)
  | case12 links l part parts hl hidle hup hlong hbare hlink ih =>
    exact .down hl ⟨hidle, hup, hlong, hbare⟩ hlink (ih h)
  | case2 | case3 | case4 | case7 | case8 | case9 | case10 => cases h

theorem follow_of_leads (h : Leads s creating links l parts m) :
    s.follow creating links l parts = .ok m := by
  induction h with
  | here => rw [follow]
  | idle hl hpart _ ih => simp [follow, hl, hpart, ih]
  | up hl _ ih =>
    have hup : Path.isIdle ['.', '.'] = false := by decide
    simp [follow, hl, hup, ih]
  | link hl hpart hlink htarget _ ih =>
    obtain ⟨hidle, hup, hlong, hbare⟩ := hpart
    rw [follow, hl]
    simp only [hidle, hup, hlong, hbare, hlink, htarget, if_false]
    exact ih
  | down hl hpart hlink _ ih =>
    obtain ⟨hidle, hup, hlong, hbare⟩ := hpart
    rw [follow, hl]
    simp only [hidle, hup, hlong, hbare, if_false, Bool.false_eq_true]
    exact ih

/-- A path that is looked up at all. -/
def IsPath (p : Text) : Prop :=
  ¬ p.contains '\x00' = true ∧ ¬ p.isEmpty = true ∧ ¬ pathLimit ≤ byteSize p

theorem locate_eq_ok_iff : s.locate creating p = .ok l ↔
    IsPath p ∧ Leads s creating linkLimit (origin s.here p) (Text.splitAtChar '/' p) l := by
  constructor
  · intro h
    unfold locate at h
    split at h
    · cases h
    · next hnul =>
      split at h
      · cases h
      · next hempty =>
        split at h
        · cases h
        · next hlong => exact ⟨⟨hnul, hempty, hlong⟩, leads_of_follow h⟩
  · rintro ⟨⟨hnul, hempty, hlong⟩, h⟩
    rw [locate, if_neg hnul, if_neg hempty, if_neg hlong]
    exact follow_of_leads h

/-- A path in use to create a file leads where it leads otherwise. -/
theorem Leads.of_creating (h : Leads s true links l parts m) : Leads s false links l parts m := by
  have hname {part : Text} {parts : List Text} (h : IsName true part parts) :
      IsName false part parts := ⟨h.counts, h.down, h.short, by simp⟩
  induction h with
  | here => exact .here
  | idle hl hpart _ ih => exact .idle hl hpart ih
  | up hl _ ih => exact .up hl ih
  | link hl hpart hlink htarget _ ih => exact .link hl (hname hpart) hlink htarget ih
  | down hl hpart hlink _ ih => exact .down hl (hname hpart) hlink ih

theorem locate_of_creating (h : s.locate true p = .ok l) : s.locate false p = .ok l := by
  obtain ⟨hp, h⟩ := locate_eq_ok_iff.mp h
  exact locate_eq_ok_iff.mpr ⟨hp, h.of_creating⟩

end Leading

/-! ## The same directories and links -/

section Ways

/-- Two states of the files have the same directories and links. -/
structure SameWays (s s' : Files) : Prop where
  here : s.here = s'.here
  directory (l : Location) : s.get? l = some .directory ↔ s'.get? l = some .directory
  link (l : Location) (target : Text) :
    s.get? l = some (.link target) ↔ s'.get? l = some (.link target)

theorem SameWays.refl (s : Files) : s.SameWays s :=
  ⟨rfl, fun _ => Iff.rfl, fun _ _ => Iff.rfl⟩

theorem SameWays.trans {s'' : Files} (h : s.SameWays s') (h' : s'.SameWays s'') :
    s.SameWays s'' :=
  ⟨h.here.trans h'.here, fun l => (h.directory l).trans (h'.directory l),
    fun l target => (h.link l target).trans (h'.link l target)⟩

theorem SameWays.symm (h : s.SameWays s') : s'.SameWays s :=
  ⟨h.here.symm, fun l => (h.directory l).symm, fun l target => (h.link l target).symm⟩

theorem SameWays.leads (hs : s.SameWays s') (h : Leads s creating links l parts m) :
    Leads s' creating links l parts m := by
  induction h with
  | here => exact .here
  | idle hl hpart _ ih => exact .idle ((hs.directory _).mp hl) hpart ih
  | up hl _ ih => exact .up ((hs.directory _).mp hl) ih
  | link hl hpart hlink htarget _ ih =>
    exact .link ((hs.directory _).mp hl) hpart ((hs.link _ _).mp hlink) htarget ih
  | down hl hpart hlink _ ih =>
    refine .down ((hs.directory _).mp hl) hpart ?_ ih
    exact fun target h => hlink target ((hs.link _ _).mpr h)

/-- **Paths lead the same way past the same directories and links.** -/
theorem SameWays.locate_iff (hs : s.SameWays s') :
    s.locate creating p = .ok l ↔ s'.locate creating p = .ok l := by
  rw [locate_eq_ok_iff, locate_eq_ok_iff, hs.here]
  exact and_congr_right fun _ => ⟨hs.leads, hs.symm.leads⟩

end Ways

/-! ## Writing -/

section Writing

/-- There is no link at a location, which is in a directory. -/
structure Stands (s : Files) (l : Location) : Prop where
  plain : ∀ target, s.get? l ≠ some (.link target)
  within : s.get? l.dropLast = some .directory

theorem IsTree.stands (hs : s.IsTree) (h : s.get? l = some .directory) : s.Stands l where
  plain target := by simp [h]
  within := hs.dropLast (by simp [h])

/-- A path with parts leads to no link, and to something in a directory. -/
theorem IsTree.stands_of_leads (hs : s.IsTree) (hstart : parts = [] → s.Stands l)
    (h : Leads s creating links l parts m) : s.Stands m := by
  -- every step starts from a directory, which is in the tree
  induction h with
  | here => exact hstart rfl
  | idle hl _ _ ih => exact ih fun _ => hs.stands hl
  | up hl _ ih => exact ih fun _ => hs.stands (hs.dropLast (by simp [hl]))
  | link _ _ _ _ _ ih =>
    exact ih fun h => absurd (List.append_eq_nil_iff.mp h).1 (Text.splitAtChar_ne_nil _ _)
  | down hl _ hlink _ ih => exact ih fun _ => ⟨hlink, by rwa [List.dropLast_concat]⟩

/-- A path leads to a location where a file can be written. -/
structure Takes (s : Files) (p : Text) (l : Location) : Prop where
  leads : s.locate true p = .ok l
  free : s.get? l ≠ some .directory

theorem SameWays.takes_iff (hs : s.SameWays s') : s.Takes p l ↔ s'.Takes p l := by
  constructor
  · rintro ⟨hleads, hfree⟩
    exact ⟨hs.locate_iff.mp hleads, fun h => hfree ((hs.directory l).mpr h)⟩
  · rintro ⟨hleads, hfree⟩
    exact ⟨hs.locate_iff.mpr hleads, fun h => hfree ((hs.directory l).mp h)⟩

/-- **When a write succeeds and what it does.** -/
theorem write_eq_ok_iff :
    s.write p t = .ok s' ↔ ∃ l, s.Takes p l ∧ s' = s.set l (.file (encode t)) := by
  unfold write writeBytes
  cases hleads : s.locate true p with
  | error fault =>
    simp only [reduceCtorEq, false_iff, not_exists]
    rintro l ⟨⟨h, -⟩, -⟩
    cases hleads.symm.trans h
  | ok l =>
    simp only
    split
    · next hl =>
      simp only [reduceCtorEq, false_iff, not_exists]
      rintro m ⟨⟨h, hfree⟩, -⟩
      obtain rfl : l = m := Except.ok.inj (hleads.symm.trans h)
      exact hfree hl
    · next hfree =>
      constructor
      · rintro ⟨⟩
        exact ⟨l, ⟨hleads, fun h => hfree h⟩, rfl⟩
      · rintro ⟨m, ⟨h, -⟩, rfl⟩
        obtain rfl : l = m := Except.ok.inj (hleads.symm.trans h)
        rfl

namespace Takes

theorem ne_nil (h : s.Takes p l) : l ≠ [] := by
  rintro rfl
  exact h.free rfl

theorem stands (hs : s.IsTree) (h : s.Takes p l) : s.Stands l :=
  hs.stands_of_leads (fun hnil => absurd hnil (Text.splitAtChar_ne_nil _ _))
    (locate_eq_ok_iff.mp h.leads).2

theorem get?_set (h : s.Takes p l) (m : Location) :
    (s.set l (.file b)).get? m = if m = l then some (.file b) else s.get? m :=
  Files.get?_set s h.ne_nil _ m

/-- **A write keeps the directories and links.** -/
theorem sameWays (hs : s.IsTree) (h : s.Takes p l) : s.SameWays (s.set l (.file b)) where
  here := rfl
  directory m := by
    rw [h.get?_set]
    split
    · next hm => simp [hm, h.free]
    · rfl
  link m target := by
    rw [h.get?_set]
    split
    · next hm => simp [hm, (h.stands hs).plain]
    · rfl

/-- **A write keeps the tree.** -/
theorem isTree_set (hs : s.IsTree) (h : s.Takes p l) : (s.set l (.file b)).IsTree := by
  intro m part hpart
  refine ((h.sameWays hs).directory m).mp ?_
  rw [h.get?_set] at hpart
  split at hpart
  · next hl =>
    have := (h.stands hs).within
    rwa [← hl, List.dropLast_concat] at this
  · exact hs m part hpart

end Takes

end Writing

/-! ## Reading -/

section Reading

/-- Two paths lead to the same location. -/
def Meet (s : Files) (p q : Text) : Prop :=
  ∃ l, s.locate false p = .ok l ∧ s.locate false q = .ok l

theorem not_meet (hp : s.locate false p = .ok l) (hq : s.locate false q = .ok m) (h : l ≠ m) :
    ¬ s.Meet p q := by
  rintro ⟨n, hp', hq'⟩
  obtain rfl : l = n := Except.ok.inj (hp.symm.trans hp')
  exact h (Except.ok.inj (hq.symm.trans hq')).symm

theorem readText_eq_ok_iff : s.readText p = .ok t ↔
    ∃ l b, s.locate false p = .ok l ∧ s.get? l = some (.file b) ∧ decode? b = some t := by
  constructor
  · intro h
    unfold readText read look at h
    cases hleads : s.locate false p with
    | error fault => simp [hleads] at h
    | ok l =>
      match hl : s.get? l with
      | none => simp [hleads, hl] at h
      | some .directory => simp [hleads, hl] at h
      | some (.link target) => simp [hleads, hl] at h
      | some (.file b) =>
        cases hb : decode? b with
        | none => simp [hleads, hl, hb] at h
        | some u =>
          obtain rfl : u = t := by simpa [hleads, hl, hb] using h
          exact ⟨l, b, rfl, hl, hb⟩
  · rintro ⟨l, b, hleads, hl, hb⟩
    simp [readText, read, look, hleads, hl, hb]

theorem decode?_encode (t : Text) : decode? (encode t) = some t := by
  have hvalid : (encode t).IsValidUTF8 := (String.ofList t).isValidUTF8
  unfold decode? String.fromUTF8?
  rw [dif_pos hvalid]
  exact congrArg some String.toList_ofList

theorem SameWays.meet_iff (hs : s.SameWays s') : s.Meet p q ↔ s'.Meet p q := by
  simp only [Meet, hs.locate_iff]

/-- **What was written is read back.** -/
theorem readText_of_get? (hl : s.locate false p = .ok l)
    (h : s.get? l = some (.file (encode t))) : s.readText p = .ok t :=
  readText_eq_ok_iff.mpr ⟨l, encode t, hl, h, decode?_encode t⟩

namespace Takes

/-- **A write elsewhere leaves a file as it was.** -/
theorem readText_iff (hs : s.IsTree) (h : s.Takes p l) (hmeet : ¬ s.Meet p q) :
    (s.set l (.file b)).readText q = .ok t ↔ s.readText q = .ok t := by
  rw [readText_eq_ok_iff, readText_eq_ok_iff]
  refine exists_congr fun m => exists_congr fun c => ?_
  rw [← (h.sameWays hs).locate_iff]
  refine and_congr_right fun hm => ?_
  have hne : m ≠ l := by
    rintro rfl
    exact hmeet ⟨m, locate_of_creating h.leads, hm⟩
  rw [h.get?_set, if_neg hne]

end Takes

end Reading

end Files

end Lector
