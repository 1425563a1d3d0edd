import Lector.Proofs.Files.Names
import Lector.Proofs.Output.Grammar

/-!
# Placeholders and the default name

The extension of a path is told by its file name, while the root is what is left of the text of the
path without it, and the base root is the file name of that text in turn. Where a path ends with its
file name, the root and the extension make up the path. The base root is then the stem of the file
name, unless that is a dot or two, which are no file name. Where a path goes on behind its file
name, the extension stays with the base root.

The default template sets a mark in front of the extension. The dot that the extension starts with
can be told again behind the mark, so that no two paths are given the same name.

## Main definitions

* `EndsWithName`: a path that ends with its file name

## Main results

* `Placeholder.decompose_iff`: when root and extension make up the path, and base root and extension
  the file name
* `render_defaultTemplate_apart`: the default template gives every path a name of its own
-/

namespace Lector.Output

open Lector.Path (IsFront NameParts)

variable {path name front stem t part : Text}

/-! ## The values of the placeholders -/

theorem nameOf_of_fileName? (h : Path.fileName? path = some name) : nameOf path = name := by
  rw [nameOf, h]
  rfl

/-- The extension of a path is the one of its file name. -/
theorem exists_nameParts (h : Path.fileName? path = some name) :
    ∃ stem, NameParts name stem (extensionOf path) := by
  have hextension : extensionOf path = ((Path.splitName name).2.map ('.' :: ·)).getD [] := by
    rw [extensionOf, Path.extension?, h, Option.bind_some]
    cases (Path.splitName name).2 <;> rfl
  exact ⟨_, hextension ▸ Path.nameParts_splitName name⟩

theorem rootOf_eq (h : path = front ++ extensionOf path) : rootOf path = front := by
  rw [rootOf, Text.dropSuffix?_eq_some_iff.mpr h]
  rfl

theorem rootOf_of_not_suffix (h : ¬ extensionOf path <:+ path) : rootOf path = path := by
  have hdrop : Text.dropSuffix? (extensionOf path) path = none :=
    Option.eq_none_iff_forall_ne_some.mpr fun r hr =>
      h ⟨r, (Text.dropSuffix?_eq_some_iff.mp hr).symm⟩
  rw [rootOf, hdrop]
  rfl

theorem rootOf_append_extensionOf_iff (path : Text) :
    rootOf path ++ extensionOf path = path ↔ extensionOf path <:+ path := by
  refine ⟨fun h => ⟨_, h⟩, ?_⟩
  rintro ⟨front, h⟩
  rw [rootOf_eq h.symm, h]

/-- The root of a path that ends with its file name ends with the stem. -/
theorem rootOf_append (h : NameParts name stem (extensionOf (front ++ name))) :
    rootOf (front ++ name) = front ++ stem :=
  rootOf_eq (by rw [List.append_assoc, h.append_eq])

/-- A stem is the file name of the root unless it is a dot or two. -/
theorem nameOf_append_eq_iff (hfront : IsFront front) (hslash : '/' ∉ stem) (hne : stem ≠ []) :
    nameOf (front ++ stem) = stem ↔ stem ≠ ['.'] ∧ stem ≠ ['.', '.'] := by
  constructor
  · intro h
    have hname : Path.fileName? (front ++ stem) = some stem := by
      rw [nameOf] at h
      cases hfile : Path.fileName? (front ++ stem) with
      | none => exact absurd (by simpa [hfile] using h.symm) hne
      | some name => simpa [hfile] using h
    have hname := Path.isName_of_fileName? hname
    exact ⟨hname.ne_dot, hname.not_upwards⟩
  · rintro ⟨hdot, hup⟩
    have hname : Path.IsName stem := ⟨hslash, by simp [Path.isIdle, hne, hdot], hup⟩
    exact nameOf_of_fileName? (hname.fileName?_append hfront)

/-- The stem of a name has no slash, and neither has its extension. -/
theorem not_mem_of_nameParts {ext : Text} (hname : Path.IsName name)
    (hparts : NameParts name stem ext) : '/' ∉ stem ∧ '/' ∉ ext := by
  have hslash := hname.no_slash
  rw [← hparts.append_eq, List.mem_append, not_or] at hslash
  exact hslash

/-- Where a path goes on behind its file name, no extension is cut off that name: it is a dot at
most that is cut off, and one that stands behind a slash. -/
theorem nameOf_rootOf_of_idle (hidle : Path.isIdle part = true)
    (h : Path.fileName? (t ++ '/' :: part) = some name)
    (hfront : Path.fileName? (t ++ ['/']) = some name) :
    nameOf (rootOf (t ++ '/' :: part)) = name := by
  obtain ⟨stem, hparts⟩ := exists_nameParts h
  have hslash := (not_mem_of_nameParts (Path.isName_of_fileName? h) hparts).2
  by_cases hsuffix : extensionOf (t ++ '/' :: part) <:+ t ++ '/' :: part
  · rcases Path.eq_of_suffix_of_idle hidle hsuffix hslash with hext | ⟨hext, rfl⟩
    · rw [rootOf_eq (by rw [hext, List.append_nil]), nameOf_of_fileName? h]
    · have hpath : t ++ ['/', '.'] = (t ++ ['/']) ++ extensionOf (t ++ ['/', '.']) := by
        rw [hext]
        simp
      rw [rootOf_eq hpath, nameOf_of_fileName? hfront]
  · rw [rootOf_of_not_suffix hsuffix, nameOf_of_fileName? h]

/-- When a path ends with the extension of its file name. -/
theorem extensionOf_suffix_iff (h : Path.fileName? path = some name) :
    extensionOf path <:+ path ↔
      extensionOf path = [] ∨ name <:+ path ∨ extensionOf path = ['.'] ∧ ['/', '.'] <:+ path := by
  obtain ⟨stem, hparts⟩ := exists_nameParts h
  have hslash := (not_mem_of_nameParts (Path.isName_of_fileName? h) hparts).2
  constructor
  · intro hsuffix
    rcases Path.name_or_idle h with ⟨front, -, hpath⟩ | ⟨t, part, hidle, hpath, -⟩
    · exact Or.inr (Or.inl ⟨front, hpath.symm⟩)
    · rw [hpath] at hsuffix
      rcases Path.eq_of_suffix_of_idle hidle hsuffix (hpath ▸ hslash) with hext | ⟨hext, rfl⟩
      · exact Or.inl (hpath ▸ hext)
      · exact Or.inr (Or.inr ⟨hpath ▸ hext, t, hpath.symm⟩)
  · rintro (hext | hend | ⟨hext, hend⟩)
    · rw [hext]
      exact List.nil_suffix
    · exact List.IsSuffix.trans ⟨stem, hparts.append_eq⟩ hend
    · rw [hext]
      exact List.IsSuffix.trans ⟨['/'], rfl⟩ hend

/-- When the base root and the extension make up the file name. -/
theorem nameOf_rootOf_append_iff (h : Path.fileName? path = some name)
    (hparts : NameParts name stem (extensionOf path)) :
    nameOf (rootOf path) ++ extensionOf path = name ↔
      extensionOf path = [] ∨ name <:+ path ∧ stem ≠ ['.'] ∧ stem ≠ ['.', '.'] := by
  have hname := Path.isName_of_fileName? h
  rcases Path.name_or_idle h with ⟨front, hfront, rfl⟩ | ⟨t, part, hidle, rfl, hslash⟩
  · rw [rootOf_append hparts]
    have hcut : nameOf (front ++ stem) ++ extensionOf (front ++ name) = name ↔
        nameOf (front ++ stem) = stem := by
      conv_lhs => rhs; rw [← hparts.append_eq]
      exact List.append_left_inj _
    rw [hcut, nameOf_append_eq_iff hfront (not_mem_of_nameParts hname hparts).1
      (hparts.stem_ne_nil hname.ne_nil)]
    constructor
    · exact fun hstem => Or.inr ⟨List.suffix_append front name, hstem⟩
    · rintro (hnone | ⟨-, hstem⟩)
      · obtain rfl : stem = name := by simpa [hnone] using hparts.append_eq
        exact ⟨hname.ne_dot, hname.not_upwards⟩
      · exact hstem
  · rw [nameOf_rootOf_of_idle hidle h hslash, List.append_right_eq_self]
    exact (or_iff_left fun hend => hname.not_suffix_of_idle hidle hend.1).symm

namespace Placeholder

/-- **When the values of the placeholders make up the path and the file name.** -/
theorem decompose_iff (directory : Text) (h : Path.fileName? path = some name) :
    ∃ stem ext, NameParts name stem ext ∧
      extension.value directory path = ext ∧ baseName.value directory path = name ∧
      (root.value directory path ++ extension.value directory path = input.value directory path ↔
        ext = [] ∨ name <:+ path ∨ ext = ['.'] ∧ ['/', '.'] <:+ path) ∧
      (baseRoot.value directory path ++ extension.value directory path =
          baseName.value directory path ↔
        ext = [] ∨ name <:+ path ∧ stem ≠ ['.'] ∧ stem ≠ ['.', '.']) := by
  obtain ⟨stem, hparts⟩ := exists_nameParts h
  have hbase : baseName.value directory path = name := nameOf_of_fileName? h
  refine ⟨stem, extensionOf path, hparts, rfl, hbase, ?_, ?_⟩
  · exact (rootOf_append_extensionOf_iff path).trans (extensionOf_suffix_iff h)
  · rw [hbase]
    exact nameOf_rootOf_append_iff h hparts

/-- The base root of a name that begins with two dots is not its stem, but the file name of what
stands in front of it. -/
theorem decompose_two_dots :
    Path.fileName? "docs/..txt".toList = some "..txt".toList ∧
      root.value [] "docs/..txt".toList ++ extension.value [] "docs/..txt".toList =
        input.value [] "docs/..txt".toList ∧
      baseRoot.value [] "docs/..txt".toList ++ extension.value [] "docs/..txt".toList ≠
        baseName.value [] "docs/..txt".toList := by
  have hname : Path.fileName? "docs/..txt".toList = some "..txt".toList := by decide +kernel
  obtain ⟨stem, ext, hparts, -, -, hroot, hbase⟩ := decompose_iff [] hname
  have hdotted : NameParts (['.'] ++ '.' :: "txt".toList) ['.'] ('.' :: "txt".toList) :=
    .dotted (by decide) (by decide)
  obtain ⟨rfl, rfl⟩ := hparts.unique hdotted
  refine ⟨hname, hroot.mpr (Or.inr (Or.inl ⟨"docs/".toList, rfl⟩)), fun h => ?_⟩
  rcases hbase.mp h with hnone | ⟨-, hdot, -⟩
  · cases hnone
  · exact hdot rfl

end Placeholder

/-! ## The default template -/

/-- A path ends with its file name. -/
def EndsWithName (path : Text) : Prop := ∃ name, Path.fileName? path = some name ∧ name <:+ path

theorem render_defaultTemplate (directory path : Text) :
    render directory defaultTemplate path =
      .ok (rootOf path ++ ".out".toList ++ extensionOf path) := by
  have hprint : print [.placeholder .root, .char '.', .char 'o', .char 'u', .char 't',
      .placeholder .extension] = defaultTemplate := by decide
  rw [← hprint, (Cut.ofParts _).render_eq]
  simp [Cut.ofParts, Part.value, Placeholder.value]

/-- A path that ends with its file name is given a name with the mark behind the stem. -/
theorem EndsWithName.exists_render_eq (h : EndsWithName path) :
    ∃ front stem, IsFront front ∧ path = front ++ stem ++ extensionOf path ∧
      Path.fileName? path = some (stem ++ extensionOf path) ∧
      NameParts (stem ++ extensionOf path) stem (extensionOf path) ∧
      ∀ directory, render directory defaultTemplate path =
        .ok (front ++ stem ++ ".out".toList ++ extensionOf path) := by
  obtain ⟨name, hname, hend⟩ := h
  obtain ⟨front, hfront, hpath⟩ := Path.exists_front_of_suffix hname hend
  obtain ⟨stem, hparts⟩ := exists_nameParts hname
  have hpath' : path = front ++ stem ++ extensionOf path := by
    rw [List.append_assoc, hparts.append_eq]
    exact hpath
  refine ⟨front, stem, hfront, hpath', ?_, ?_, fun directory => ?_⟩
  · rw [hparts.append_eq, hname]
  · rwa [hparts.append_eq]
  · rw [render_defaultTemplate, rootOf_eq hpath']

/-- A mark in front of the extension does not hide what the name was. -/
theorem eq_of_marked {name' stem' ext ext' mark : Text} (h : NameParts name stem ext)
    (h' : NameParts name' stem' ext') (hmark : '.' ∉ mark)
    (he : stem ++ '.' :: mark ++ ext = stem' ++ '.' :: mark ++ ext') : name = name' := by
  cases h with
  | bare h =>
    cases h' with
    | bare h' => simpa using he
    | dotted hstem' h' =>
      -- the mark would be the extension, and the name would hold a dot in front of it
      rw [List.append_nil] at he
      obtain ⟨rfl, -⟩ := Text.eq_of_append_cons_eq hmark h' he
      exact absurd (NameParts.mem_tail_of_dotted hstem') h
  | dotted hstem h =>
    cases h' with
    | bare h' =>
      rw [List.append_nil] at he
      obtain ⟨rfl, -⟩ := Text.eq_of_append_cons_eq hmark h he.symm
      exact absurd (NameParts.mem_tail_of_dotted hstem) h'
    | dotted hstem' h' =>
      obtain ⟨hstem, rfl⟩ := Text.eq_of_append_cons_eq h h' he
      rw [List.append_cancel_right hstem]

/-- Paths that are given the same name are the same. -/
theorem EndsWithName.eq_of_render_eq {directory other : Text} (h : EndsWithName path)
    (h' : EndsWithName other) (hsame : render directory defaultTemplate path =
      render directory defaultTemplate other) : path = other := by
  obtain ⟨front, stem, hfront, hpath, hname, hparts, hrender⟩ := h.exists_render_eq
  obtain ⟨front', stem', hfront', hpath', hname', hparts', hrender'⟩ := h'.exists_render_eq
  obtain ⟨hstem, hext⟩ := not_mem_of_nameParts (Path.isName_of_fileName? hname) hparts
  obtain ⟨hstem', hext'⟩ := not_mem_of_nameParts (Path.isName_of_fileName? hname') hparts'
  have hmark : '/' ∉ '.' :: "out".toList ∧ '.' ∉ "out".toList := by decide
  have hout : front ++ (stem ++ '.' :: "out".toList ++ extensionOf path) =
      front' ++ (stem' ++ '.' :: "out".toList ++ extensionOf other) := by
    simpa [hrender, hrender'] using hsame
  obtain ⟨rfl, hmarked⟩ := Path.front_unique hfront hfront' (by simp [hstem, hext])
    (by simp [hstem', hext']) hout
  have hnames := eq_of_marked hparts hparts' hmark.2 hmarked
  rw [hpath, hpath', List.append_assoc, List.append_assoc, hnames]

/-- **The default template gives a name of its own to every path that ends with its file name.** A
mark is set in front of the extension, or at the end. -/
theorem render_defaultTemplate_apart (directory : Text) (h : EndsWithName path) :
    (∃ front stem, path = front ++ stem ++ extensionOf path ∧
      Path.fileName? path = some (stem ++ extensionOf path) ∧
      NameParts (stem ++ extensionOf path) stem (extensionOf path) ∧
      render directory defaultTemplate path =
        .ok (front ++ stem ++ ".out".toList ++ extensionOf path)) ∧
      render directory defaultTemplate path ≠ .ok path ∧
      ∀ other, EndsWithName other → other ≠ path →
        render directory defaultTemplate other ≠ render directory defaultTemplate path := by
  obtain ⟨front, stem, -, hpath, hname, hparts, hrender⟩ := h.exists_render_eq
  refine ⟨⟨front, stem, hpath, hname, hparts, hrender directory⟩, fun hsame => ?_,
    fun other hother hne hsame => hne (hother.eq_of_render_eq h hsame)⟩
  have hout : front ++ stem ++ ".out".toList ++ extensionOf path = path :=
    Except.ok.inj ((hrender directory).symm.trans hsame)
  have hlength := congrArg List.length (hout.trans hpath)
  simp at hlength
  omega

/-- A path that ends like the name of another one is given a name of its own. -/
theorem render_defaultTemplate_marked_again :
    EndsWithName "d/.out".toList ∧ EndsWithName "d/.out.out".toList ∧
      render [] defaultTemplate "d/.out".toList = .ok "d/.out.out".toList ∧
      render [] defaultTemplate "d/.out.out".toList ≠
        render [] defaultTemplate "d/.out".toList := by
  have hshort : EndsWithName "d/.out".toList :=
    ⟨".out".toList, by decide +kernel, "d/".toList, rfl⟩
  have hlong : EndsWithName "d/.out.out".toList :=
    ⟨".out.out".toList, by decide +kernel, "d/".toList, rfl⟩
  obtain ⟨-, -, hapart⟩ := render_defaultTemplate_apart [] hshort
  have hmarked : render [] defaultTemplate "d/.out".toList = .ok "d/.out.out".toList :=
    (render_defaultTemplate _ _).trans (congrArg Except.ok (by decide +kernel))
  exact ⟨hshort, hlong, hmarked, hapart _ hlong (by decide)⟩

end Lector.Output
