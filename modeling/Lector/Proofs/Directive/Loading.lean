import Lector.Proofs.Directive.Discovery
import Lector.Proofs.Directive.Run
import Lector.Proofs.Source.Entries
import Lector.Proofs.Source.FirstFault

/-!
# Which file an error is about

Rule files are loaded one at a time by their path, or when a directory is searched for them, or when
a reference leads to them. Whatever keeps a file from being loaded, the error says which file it is:
by its path where the file cannot be read or its format is not known, and by naming it as the source
of a rule or of the document around the rules. The one exception is a structured file whose text is
no document at all: its error carries nothing but what the reader of the format says.

## Main definitions

* `Error.Identifies`: an error says which file it is about
* `Source.Unparsable`: a structured file whose text is no document

## Main results

* `Source.load_eq_error`: all errors of loading a file
* `Registry.discover_eq_error`: all errors of discovery
* `Resolver.resolve_eq_error`: all errors of resolving a reference
* `load_errors_identify_iff`: an error identifies its file unless that cannot be parsed
-/

namespace Lector

open Rule (Options)

/-- An error says that it is about the file at a path. -/
def Error.Identifies (path : Text) (e : Error) : Prop :=
  (∃ fault, e = .io path fault) ∨ (∃ format, e = .unsupportedFormat format path) ∨
    ∃ n, e.Names path n

namespace Source

/-! ## Loading a file -/

/-- A file holds text in one of the structured formats, but this text is no document. -/
def Unparsable (files : Files) (path : Text) (tag : Option Text) : Prop :=
  ∃ t, files.readText path = .ok t ∧
    (Format.detect path tag = .ok .yaml ∧ Yaml.readValue? t = none ∨
      Format.detect path tag = .ok .json ∧ Json.read? t = none)

variable {files : Files} {source path t : Text} {tag name : Option Text} {e : Error}

theorem unparsable_iff {format : Format} (hd : Format.detect path tag = .ok format)
    (ht : files.readText path = .ok t) :
    Unparsable files path tag ↔
      format = .yaml ∧ Yaml.readValue? t = none ∨ format = .json ∧ Json.read? t = none := by
  unfold Unparsable
  rw [hd, ht]
  simp only [Except.ok.injEq, exists_eq_left']

theorem not_unparsable_of_detect (h : Format.detect path tag = .error e) :
    ¬ Unparsable files path tag := by
  rintro ⟨t, -, ⟨hd, -⟩ | ⟨hd, -⟩⟩ <;> cases h.symm.trans hd

theorem not_unparsable_of_readText {fault : IoFault} (h : files.readText path = .error fault) :
    ¬ Unparsable files path tag := by
  rintro ⟨t, ht, -⟩
  cases h.symm.trans ht

/-- A file whose extension is the tag of a format has that format. -/
theorem detect_of_extension {extension : Text} {format : Format}
    (hextension : Path.extension? path = some extension)
    (hpickle : Text.lower extension ≠ "pickle".toList)
    (hformat : Format.ofTag? extension = some format) : Format.detect path none = .ok format := by
  simp only [Format.detect, hextension, if_neg hpickle, hformat, Option.getD_some]

theorem detect_eq_error (h : Format.detect path tag = .error e) :
    ∃ format, e = .unsupportedFormat format path := by
  unfold Format.detect at h
  cases tag with
  | some tag =>
    dsimp only at h
    split at h
    next => cases h
    next =>
      cases h
      exact ⟨tag, rfl⟩
  | none =>
    dsimp only at h
    split at h
    next extension _ =>
      split at h
      next =>
        cases h
        exact ⟨extension, rfl⟩
      next => cases h
    next => cases h

/-- An error in delimited text names the source. -/
theorem names_of_readDelimited {layout : Layout} (h : readDelimited layout source t = .error e) :
    ∃ n, e.Names source n := by
  have hparse : parseDelimited layout source t = .error e := by
    rw [parseDelimited, h]
    rfl
  obtain ⟨⟨line, n⟩, -, herror⟩ := parseDelimited_eq_error_iff.mp hparse
  exact ⟨n, Error.names_of_place? herror.place?_eq⟩

/-- An error in a document names the source. -/
theorem names_of_readDocument {overrides : Options} {v : Value}
    (h : readDocument source overrides v = .error e) : ∃ n, e.Names source n := by
  rcases readDocument_cases source overrides v with
    ⟨fault, hfault⟩ | ⟨o, substitutions, rows, -, -, hread⟩
  · cases hfault.symm.trans h
    exact ⟨0, rfl, rfl⟩
  · rw [hread, buildRows_eq_pass] at h
    cases hpass : pass source (rowOperation (o.merge overrides).rowDefaults) (rows.zipIdx 1) with
    | ok ops =>
      rw [hpass] at h
      cases h
    | error e' =>
      rw [hpass] at h
      cases h
      obtain ⟨row, n, cause, -, hcause, rfl⟩ := pass_eq_error_iff.mp hpass
      exact ⟨n, Error.names_of_place? (place?_of_rowOperation hcause source n)⟩

/-- **All errors of reading the text of a file** in a format: the text is no document, or the error
names the source. -/
theorem readText_eq_error {format : Format} (h : readText format source t = .error e) :
    (format = .yaml ∧ Yaml.readValue? t = none ∧ e = .yaml) ∨
      (format = .json ∧ Json.read? t = none ∧ e = .json) ∨
      (¬ (format = .yaml ∧ Yaml.readValue? t = none ∨ format = .json ∧ Json.read? t = none) ∧
        ∃ n, e.Names source n) := by
  cases format with
  | delimited => exact Or.inr (Or.inr ⟨by simp, names_of_readDelimited h⟩)
  | yaml =>
    rw [readText] at h
    cases hv : Yaml.readValue? t with
    | none =>
      rw [hv] at h
      cases h
      exact Or.inl ⟨rfl, rfl, rfl⟩
    | some v =>
      rw [hv] at h
      exact Or.inr (Or.inr ⟨by simp, names_of_readDocument h⟩)
  | json =>
    rw [readText] at h
    cases hv : Json.read? t with
    | none =>
      rw [hv] at h
      cases h
      exact Or.inr (Or.inl ⟨rfl, rfl, rfl⟩)
    | some v =>
      rw [hv] at h
      exact Or.inr (Or.inr ⟨by simp, names_of_readDocument h⟩)

/-- **All errors of loading a file**: either the file cannot be parsed, and the error says no more
than that, or the error identifies the file. -/
theorem load_eq_error (h : load files path tag name = .error e) :
    (Unparsable files path tag ∧ (e = .yaml ∨ e = .json)) ∨
      (¬ Unparsable files path tag ∧ e.Identifies path) := by
  unfold load at h
  cases hd : Format.detect path tag with
  | error e' =>
    rw [hd] at h
    cases h
    exact Or.inr ⟨not_unparsable_of_detect hd, Or.inr (Or.inl (detect_eq_error hd))⟩
  | ok format =>
    rw [hd] at h
    cases ht : files.readText path with
    | error fault =>
      rw [ht] at h
      cases h
      exact Or.inr ⟨not_unparsable_of_readText ht, Or.inl ⟨fault, rfl⟩⟩
    | ok t =>
      have hread : readText format path t = .error e := by
        rw [ht] at h
        change loadText path format name t = .error e at h
        rw [loadText] at h
        cases hread : readText format path t with
        | ok rules =>
          rw [hread] at h
          cases h
        | error e' =>
          rw [hread] at h
          cases h
          rfl
      rw [unparsable_iff hd ht]
      rcases readText_eq_error hread with ⟨hf, hv, he⟩ | ⟨hf, hv, he⟩ | ⟨hparses, hnames⟩
      · exact Or.inl ⟨Or.inl ⟨hf, hv⟩, Or.inl he⟩
      · exact Or.inl ⟨Or.inr ⟨hf, hv⟩, Or.inr he⟩
      · exact Or.inr ⟨hparses, Or.inr (Or.inr hnames)⟩

/-- **An error of loading a file identifies it, unless the file cannot be parsed.** -/
theorem identifies_iff (h : load files path tag name = .error e) :
    e.Identifies path ↔ ¬ Unparsable files path tag := by
  rcases load_eq_error h with ⟨hunparsable, he⟩ | ⟨hparses, hidentifies⟩
  · refine iff_of_false ?_ (not_not_intro hunparsable)
    rcases he with rfl | rfl <;> rintro (⟨_, h⟩ | ⟨_, h⟩ | ⟨_, h⟩) <;> cases h
  · exact iff_of_true hidentifies hparses

end Source

/-! ## Discovery and resolution -/

section

variable {files : Files} {directory path key : Text} {e : Error}

theorem Registry.mem_ruleFiles {found : List Files.Found} (h : .file path ∈ found)
    (hd : Directive.isDiscoverable path = true) : path ∈ ruleFiles found :=
  List.mem_filterMap.mpr ⟨.file path, h, if_pos hd⟩

theorem Registry.load_eq_error_of_registerFile {r : Registry}
    (h : registerFile files path r = .error e) : Source.load files path none none = .error e := by
  cases hl : Source.load files path none none with
  | ok rules =>
    rw [registerFile_of_load hl] at h
    cases h
  | error e' =>
    rw [registerFile_of_load_error hl] at h
    cases h
    rfl

/-- **All errors of discovery**: there is no directory, or some place of the walk ends discovery and
nothing before it does. -/
theorem Registry.discover_eq_error {r r' : Registry}
    (h : discover files directory r = (.error e, r')) :
    (files.walk directory = none ∧ e = .io directory .noDirectory) ∨
      ∃ before item after, files.walk directory = some (before ++ item :: after) ∧
        Clear files before ∧ Stops files item e := by
  cases hw : files.walk directory with
  | none =>
    simp only [discover, hw] at h
    cases h
    exact Or.inl ⟨rfl, rfl⟩
  | some found =>
    rw [discover_of_walk hw] at h
    by_cases hc : Clear files found
    · obtain ⟨r'', hr, -⟩ := exists_registerFound_of_clear hc r
      cases hr.symm.trans h
    · obtain ⟨before, item, after, e', rfl, hb, he⟩ := exists_stops_of_not_clear hc
      obtain ⟨r'', hr, -⟩ := exists_registerFound_of_stops after hb he r
      cases hr.symm.trans h
      exact Or.inr ⟨before, item, after, rfl, hb, he⟩

/-- **All errors of resolving a reference**: it is a name that leads nowhere, or its file does not
load. -/
theorem Resolver.resolve_eq_error {reference : Reference} {r : Resolver}
    (h : resolve files reference r = .error e) :
    ∃ key, reference = .named key ∧
      (files.isFile key = false ∧ e = .unknownDirective key ∨
        files.isFile key = true ∧ Source.load files key none none = .error e) := by
  cases reference with
  | operations ops => cases h
  | function f => cases h
  | named key =>
    refine ⟨key, rfl, ?_⟩
    change resolveNamed files key r = .error e at h
    cases hk : r.cache.get? key with
    | some t =>
      rw [resolveNamed_of_cached hk] at h
      cases h
    | none =>
      cases hensure : Registry.ensure files key r.registry with
      | ok p =>
        obtain ⟨loaded, registry⟩ := p
        obtain ⟨d, hd⟩ := Registry.exists_get?_of_ensure hensure
        rw [resolveNamed_of_ensure hk hensure hd] at h
        cases h
      | error e' =>
        rw [resolveNamed_of_ensure_error hk hensure] at h
        cases h
        rcases Registry.ensure_cases files key r.registry with
          ⟨-, ho⟩ | ⟨-, -, rules, -, ho⟩ | ⟨-, hf, e', hl, ho⟩ | ⟨-, hf, ho⟩
        · cases hensure.symm.trans ho
        · cases hensure.symm.trans ho
        · cases hensure.symm.trans ho
          exact Or.inr ⟨hf, hl⟩
        · cases hensure.symm.trans ho
          exact Or.inl ⟨hf, rfl⟩

/-- A file that does not load is what resolving a new name of it fails with. -/
theorem Resolver.resolve_of_load_error {r : Resolver} (hk : r.cache.get? key = none)
    (hc : r.registry.contains key = false) (hf : files.isFile key = true)
    (hl : Source.load files key none none = .error e) :
    resolve files (.named key) r = .error e := by
  refine resolveNamed_of_ensure_error hk ?_
  rw [Registry.ensure, hc, hf, Registry.registerFile_of_load_error hl]
  rfl

/-- **An error of loading a rule file identifies it, unless the file cannot be parsed**, wherever
the file is loaded: by its path, into a registry, in a directory that is searched, or for a
reference. Discovery also fails without a directory and at a link that leads nowhere, and a
reference also fails if there is no file; these errors name the path, too. -/
theorem load_errors_identify_iff (files : Files) :
    (∀ path tag name e, Source.load files path tag name = .error e →
      (e.Identifies path ↔ ¬ Source.Unparsable files path tag)) ∧
    (∀ path r e, Registry.registerFile files path r = .error e →
      (e.Identifies path ↔ ¬ Source.Unparsable files path none)) ∧
    (∀ directory r r' e, Registry.discover files directory r = (.error e, r') →
      e = .io directory .noDirectory ∨
      ∃ found, files.walk directory = some found ∧
        ((∃ path fault, .fault path fault ∈ found ∧ e = .io path (.entry path fault)) ∨
          ∃ path ∈ Registry.ruleFiles found, Source.load files path none none = .error e ∧
            (e.Identifies path ↔ ¬ Source.Unparsable files path none))) ∧
    ∀ reference r e, Resolver.resolve files reference r = .error e →
      ∃ key, reference = .named key ∧
        (e = .unknownDirective key ∨
          Source.load files key none none = .error e ∧
            (e.Identifies key ↔ ¬ Source.Unparsable files key none)) := by
  refine ⟨fun path tag name e h => Source.identifies_iff h,
    fun path r e h => Source.identifies_iff (Registry.load_eq_error_of_registerFile h),
    fun directory r r' e h => ?_, fun reference r e h => ?_⟩
  · rcases Registry.discover_eq_error h with ⟨-, rfl⟩ | ⟨before, item, after, hw, -, hstops⟩
    · exact Or.inl rfl
    refine Or.inr ⟨_, hw, ?_⟩
    cases hstops with
    | fault path fault => exact Or.inl ⟨path, fault, by simp, rfl⟩
    | @load path e hd hl =>
      exact Or.inr ⟨path, Registry.mem_ruleFiles (by simp) hd, hl, Source.identifies_iff hl⟩
  · obtain ⟨key, rfl, ⟨-, rfl⟩ | ⟨-, hl⟩⟩ := Resolver.resolve_eq_error h
    · exact ⟨key, rfl, Or.inl rfl⟩
    · exact ⟨key, rfl, Or.inr ⟨hl, Source.identifies_iff hl⟩⟩

end

/-- A directory with two structured files, both of them empty. -/
def emptyFiles : Files :=
  (((Files.mk Table.empty []).set [['d']] .directory).set [['d'], "a.json".toList]
    (.file .empty)).set [['d'], "b.yaml".toList] (.file .empty)

/-- The empty text is no document of the one format, and the error that ends discovery there does
not tell where. It is a document of the other format, but no mapping, and the error names the
file. -/
theorem load_errors_identify_emptyFiles :
    (∃ r', Registry.discover emptyFiles ['d'] Table.empty = (.error .json, r')) ∧
      ¬ Error.json.Identifies "d/a.json".toList ∧
      ∃ e, Resolver.resolve emptyFiles (.named "d/b.yaml".toList)
          (.ofRegistry Table.empty false 0) = .error e ∧ e.Identifies "d/b.yaml".toList := by
  have hall := load_errors_identify_iff emptyFiles
  have hjson : Source.Format.detect "d/a.json".toList none = .ok .json := by
    have hextension : Path.extension? "d/a.json".toList = some "json".toList := by decide +kernel
    exact Source.detect_of_extension hextension (by decide +kernel) rfl
  have hyaml : Source.Format.detect "d/b.yaml".toList none = .ok .yaml := by
    have hextension : Path.extension? "d/b.yaml".toList = some "yaml".toList := by decide +kernel
    exact Source.detect_of_extension hextension (by decide +kernel) rfl
  have htext : emptyFiles.readText "d/a.json".toList = .ok [] := by cbv
  have htext' : emptyFiles.readText "d/b.yaml".toList = .ok [] := by cbv
  have hnone : Json.read? [] = none := by decide +kernel
  have hnull : Yaml.readValue? [] = some .null := by cbv
  have hload : Source.load emptyFiles "d/a.json".toList none none = .error .json := by
    rw [Source.load, hjson, htext]
    rfl
  have hload' : Source.load emptyFiles "d/b.yaml".toList none none =
      .error (.row "d/b.yaml".toList 0 .rootKind) := by
    rw [Source.load, hyaml, htext']
    simp only [Source.loadText, Source.readText, hnull]
    rfl
  have hresolve : Resolver.resolve emptyFiles (.named "d/b.yaml".toList)
      (.ofRegistry Table.empty false 0) = .error (.row "d/b.yaml".toList 0 .rootKind) := by
    have hfile : emptyFiles.isFile "d/b.yaml".toList = true := by cbv
    exact Resolver.resolve_of_load_error rfl rfl hfile hload'
  refine ⟨?_, ?_, .row "d/b.yaml".toList 0 .rootKind, hresolve, ?_⟩
  · have hwalk : emptyFiles.walk ['d'] = some [.directory ['d'], .file "d/a.json".toList,
        .file "d/b.yaml".toList] := by cbv
    rw [Registry.discover_of_walk hwalk]
    exact ⟨_, Registry.registerFound_of_stops (.load (by decide +kernel) hload) 0 Table.empty⟩
  · have hregister := Registry.registerFile_of_load_error (r := Table.empty) hload
    rw [hall.2.1 _ _ _ hregister, not_not]
    exact ⟨[], htext, Or.inr ⟨hjson, hnone⟩⟩
  · obtain ⟨key, hkey, he | ⟨-, hidentifies⟩⟩ := hall.2.2.2 _ _ _ hresolve
    · cases he
    · cases hkey
      rw [hidentifies, Source.unparsable_iff hyaml htext', hnull]
      simp

end Lector
