import Lector.Command.Run
import Lector.Proofs.Directive.Composition
import Lector.Proofs.Directive.Lookup

/-!
# What the references of a run lead to

The references that are asked for are looked up in order. What stands under a reference at its turn
goes before a file at that path: a built-in directive, the name or the path of a file of the data
directory, or the name or the path of a file that was read for a reference in front. So a rule file
that a reference is the path of becomes its stage just when nothing stands there that does
otherwise, and no file is looked at for a reference that stands.

## Main definitions

* `Registry.lookAll`: the registry after references were looked up in it
* `Command.Turn`: a reference whose turn comes in a run
* `Command.StageApplies`: what the stage of a reference does

## Main results

* `Registry.stands_of_lookAll`: what can stand after lookups
* `Pipeline.exists_build_of_lookAll`: pipelines are built by the registry alone
* `Command.Turn.stage_applies_file_iff`: when the file at a reference becomes its stage
-/

namespace Lector

open Rule (applyAll)

/-! ## Lookups in a registry -/

namespace Registry

variable {files : Files} {key k : Text} {keys : List Text} {r now : Registry} {d : Directive}

/-- The registry after references were looked up in it, one after another. -/
def lookAll (files : Files) : List Text → Registry → Except Error Registry
  | [], r => .ok r
  | key :: keys, r =>
    match getOrRegister files key r with
    | .error e => .error e
    | .ok (_, r) => lookAll files keys r

/-- A file that loads stands under a key. -/
def FileStands (files : Files) (path key : Text) (d : Directive) : Prop :=
  ∃ rules, files.isFile path = true ∧ Source.load files path none none = .ok rules ∧
    (key = path ∨ key = rules.name) ∧ d = .operations rules.operations

/-- What stands after a lookup stood before, or it comes of the file that was read. -/
theorem stands_of_getOrRegister (h : getOrRegister files key r = .ok (d, now)) {d' : Directive}
    (hk : now.get? k = some d') : r.get? k = some d' ∨ FileStands files key k d' := by
  rcases ensure_cases files key r with
    ⟨-, he⟩ | ⟨-, hf, rules, hl, he⟩ | ⟨-, -, e, -, he⟩ | ⟨-, -, he⟩
  · obtain ⟨d₀, hd₀⟩ := exists_get?_of_ensure he
    cases (getOrRegister_of_ensure he hd₀).symm.trans h
    exact .inl hk
  · obtain ⟨d₀, hd₀⟩ := exists_get?_of_ensure he
    cases (getOrRegister_of_ensure he hd₀).symm.trans h
    rw [get?_addFile] at hk
    split at hk
    next hkey => exact .inr ⟨rules, hf, hl, hkey, (Option.some.inj hk).symm⟩
    next => exact .inl hk
  · cases (getOrRegister_of_ensure_error he).symm.trans h
  · cases (getOrRegister_of_ensure_error he).symm.trans h

/-- **What can stand after lookups**: what stood at the start, and what comes of the files at the
references. -/
theorem stands_of_lookAll (h : lookAll files keys r = .ok now) (hk : now.get? k = some d) :
    r.get? k = some d ∨ ∃ key ∈ keys, FileStands files key k d := by
  induction keys generalizing r with
  | nil =>
    cases h
    exact .inl hk
  | cons key keys ih =>
    rw [lookAll] at h
    split at h
    next => cases h
    next d₀ r₁ hlook =>
      rcases ih h with hstood | ⟨key', hkey', hfile⟩
      · rcases stands_of_getOrRegister hlook hstood with hstood | hfile
        · exact .inl hstood
        · exact .inr ⟨key, List.mem_cons_self, hfile⟩
      · exact .inr ⟨key', List.mem_cons_of_mem _ hkey', hfile⟩

/-- A file is read for a reference that does not stand. -/
theorem getOrRegister_of_load {rules : Source.Rules} (hk : r.get? key = none)
    (hf : files.isFile key = true) (hl : Source.load files key none none = .ok rules) :
    getOrRegister files key r = .ok (.operations rules.operations, addFile key rules r) := by
  have hc : r.contains key = false := by simp [Table.contains, hk]
  have he : ensure files key r = .ok (some rules.name, addFile key rules r) := by
    simp [ensure, registerFile, hc, hf, hl]
  exact getOrRegister_of_ensure he (by simp)

theorem getOrRegister_of_load_error {e : Error} (hk : r.get? key = none)
    (hf : files.isFile key = true) (hl : Source.load files key none none = .error e) :
    getOrRegister files key r = .error e := by
  have hc : r.contains key = false := by simp [Table.contains, hk]
  exact getOrRegister_of_ensure_error (by simp [ensure, registerFile, hc, hf, hl])

theorem getOrRegister_of_not_isFile (hk : r.get? key = none) (hf : files.isFile key = false) :
    getOrRegister files key r = .error (.unknownDirective key) := by
  have hc : r.contains key = false := by simp [Table.contains, hk]
  exact getOrRegister_of_ensure_error (by simp [ensure, hc, hf])

end Registry

/-! ## Pipelines of references -/

namespace Resolver.Coherent

variable {files : Files} {key : Text} {r : Resolver} {d : Directive} {now : Registry}

/-- What the registry finds is resolved. -/
theorem exists_resolveNamed_of_lookup (h : r.Coherent)
    (hlook : Registry.getOrRegister files key r.registry = .ok (d, now)) :
    ∃ t r', Resolver.resolveNamed files key r = .ok (t, r') ∧ t.apply = d.apply ∧
      r'.registry = now ∧ r'.Coherent := by
  have ha := h.resolveNamed_agrees files key
  rw [hlook] at ha
  cases hr : Resolver.resolveNamed files key r with
  | error e => simp [hr, Except.map] at ha
  | ok p =>
    obtain ⟨t, r'⟩ := p
    simp only [hr, Except.map, Except.ok.injEq, Prod.mk.injEq] at ha
    exact ⟨t, r', rfl, ha.1, ha.2, h.resolveNamed hr⟩

theorem resolveNamed_of_lookup_error (h : r.Coherent) {e : Error}
    (hlook : Registry.getOrRegister files key r.registry = .error e) :
    Resolver.resolveNamed files key r = .error e :=
  h.resolveNamed_eq_error_iff.mpr (Registry.InPlace.getOrRegister_eq_error_iff.mp hlook)

end Resolver.Coherent

namespace Pipeline

variable {files : Files} {references references' : List Reference} {keys : List Text}
  {r r' : Resolver} {p q : Pipeline} {now : Registry} {e : Error}

theorem build_of_error {reference : Reference} (h : r.resolve files reference = .error e) :
    build files (reference :: references) r = (.error e, r) := by
  rw [build, h]

/-- References in two parts are resolved one part after the other. -/
theorem build_append (h : build files references r = (.ok q, r')) :
    build files (references ++ references') r =
      ((build files references' r').1.map (q ++ ·), (build files references' r').2) := by
  induction references generalizing r q with
  | nil =>
    cases h
    cases hb : build files references' r' with
    | mk result r'' => cases result <;> simp [hb, Except.map]
  | cons reference references ih =>
    rw [build] at h
    split at h
    next => cases h
    next t r₁ ht =>
      split at h
      next => cases h
      next q₁ r₂ hq =>
        cases h
        rw [List.cons_append, build, ht]
        simp only [ih hq]
        cases hb : build files references' r' with
        | mk result r'' => cases result <;> rfl

/-- **Pipelines are built by the registry alone**: the references that it finds become stages, and
it comes to what it comes to by the lookups. -/
theorem exists_build_of_lookAll (h : r.Coherent)
    (hlook : Registry.lookAll files keys r.registry = .ok now) :
    ∃ q r', build files (keys.map .named) r = (.ok q, r') ∧ q.length = keys.length ∧
      r'.registry = now ∧ r'.Coherent := by
  induction keys generalizing r with
  | nil =>
    cases hlook
    exact ⟨[], r, rfl, rfl, rfl, h⟩
  | cons key keys ih =>
    rw [Registry.lookAll] at hlook
    split at hlook
    next => cases hlook
    next d registry hd =>
      obtain ⟨t, r₁, ht, -, rfl, h₁⟩ := h.exists_resolveNamed_of_lookup hd
      obtain ⟨q, r', hq, hlength, hnow, h'⟩ := ih h₁ hlook
      have hres : r.resolve files (.named key) = .ok (t, r₁) := ht
      exact ⟨⟨key, t⟩ :: q, r', build_cons hres hq, by simp [hlength], hnow, h'⟩

end Pipeline

/-! ## References of a run -/

namespace Command

variable {vars : Variables} {files : Files} {a : Arguments} {before after : List Text} {r : Text}
  {registry now : Registry} {f g : Text → Except Error Text} {d : Directive} {e : Error}

/-- The turn of a reference comes in a run: the directives of the start are there, and the
references in front are found. -/
structure Turn (vars : Variables) (files : Files) (a : Arguments) (before : List Text) (r : Text)
    (after : List Text) (registry now : Registry) : Prop where
  asked : a.directives = before ++ r :: after
  started : startRegistry vars files a = .ok registry
  reached : registry.lookAll files before = .ok now

/-- The stage of a reference applies a function: the references up to this one become stages, the
last of them under its name, and every pipeline of the run starts with them. -/
def StageApplies (vars : Variables) (files : Files) (a : Arguments) (before : List Text)
    (r : Text) (registry : Registry) (f : Text → Except Error Text) : Prop :=
  ∃ q t, (Pipeline.build files ((before ++ [r]).map .named)
      (.ofRegistry registry (0 < a.verbosity) 0)).1 = .ok (q ++ [⟨r, t⟩]) ∧
    q.length = before.length ∧ t.apply = f ∧
    ∀ p, prepare vars files a = .ok p → ∃ rest, p = q ++ ⟨r, t⟩ :: rest

theorem StageApplies.unique (h : StageApplies vars files a before r registry f)
    (h' : StageApplies vars files a before r registry g) : f = g := by
  obtain ⟨q, t, hq, -, rfl, -⟩ := h
  obtain ⟨q', t', hq', -, rfl, -⟩ := h'
  have hstages := List.append_inj' (Except.ok.inj (hq.symm.trans hq')) rfl
  have hstage : (⟨r, t⟩ : Stage) = ⟨r, t'⟩ := List.head_eq_of_cons_eq hstages.2
  cases hstage
  rfl

theorem Turn.references_eq (h : Turn vars files a before r after registry now) :
    references a = before.map .named ++ .named r :: after.map .named := by
  have hne : a.directives.isEmpty = false := by simp [h.asked]
  rw [references, hne, h.asked]
  simp

theorem Turn.prepare_eq (h : Turn vars files a before r after registry now) :
    prepare vars files a = (Pipeline.build files
      (before.map .named ++ .named r :: after.map .named)
      (.ofRegistry registry (0 < a.verbosity) 0)).1 := by
  rw [prepare, h.started, ← h.references_eq]
  rfl

/-- What is found at its turn becomes the stage of a reference. -/
theorem Turn.stageApplies (h : Turn vars files a before r after registry now) {now' : Registry}
    (hd : Registry.getOrRegister files r now = .ok (d, now')) :
    StageApplies vars files a before r registry d.apply := by
  -- The resolver at this turn is coherent, so it finds what the registry finds.
  obtain ⟨q, r₁, hq, hlength, rfl, hc⟩ := Pipeline.exists_build_of_lookAll
    (Resolver.coherent_ofRegistry registry (0 < a.verbosity) 0) h.reached
  obtain ⟨t, r₂, ht, happly, -, -⟩ := hc.exists_resolveNamed_of_lookup hd
  have hres : r₁.resolve files (.named r) = .ok (t, r₂) := ht
  have hlast : Pipeline.build files [.named r] r₁ = (.ok [⟨r, t⟩], r₂) :=
    Pipeline.build_cons hres rfl
  refine ⟨q, t, ?_, hlength, happly, fun p hp => ?_⟩
  · rw [List.map_append, Pipeline.build_append hq]
    exact congrArg (fun b => b.1.map (q ++ ·)) hlast
  · rw [h.prepare_eq, Pipeline.build_append hq] at hp
    cases hrest : Pipeline.build files (after.map .named) r₂ with
    | mk result r₃ =>
      cases result with
      | error e =>
        rw [Pipeline.build, hres] at hp
        simp [hrest, Except.map] at hp
      | ok rest =>
        rw [Pipeline.build_cons hres hrest] at hp
        cases hp
        exact ⟨rest, rfl⟩

/-- A reference that is not found at its turn ends the run. -/
theorem Turn.prepare_eq_error (h : Turn vars files a before r after registry now)
    (he : Registry.getOrRegister files r now = .error e) : prepare vars files a = .error e := by
  obtain ⟨q, r₁, hq, -, rfl, hc⟩ := Pipeline.exists_build_of_lookAll
    (Resolver.coherent_ofRegistry registry (0 < a.verbosity) 0) h.reached
  have hres : r₁.resolve files (.named r) = .error e := hc.resolveNamed_of_lookup_error he
  rw [h.prepare_eq, Pipeline.build_append hq, Pipeline.build_of_error hres]
  rfl

/-- **When the file at a reference becomes its stage.** At the turn of a reference, what stands
under it becomes its stage, whatever file there is. If nothing stands, the file at that path does,
with its rules in order; one that does not load ends the run with its error, and where there is no
file either, the run ends since the directive is unknown. So a rule file that loads is the stage of
its reference just when nothing stands there that does otherwise. What can stand there was
registered at the start, or it comes of a file that was read for a reference in front and has this
reference for its path or its name. -/
theorem Turn.stage_applies_file_iff (h : Turn vars files a before r after registry now) :
    (∀ d, now.get? r = some d → StageApplies vars files a before r registry d.apply) ∧
    (∀ rules, now.get? r = none → files.isFile r = true →
      Source.load files r none none = .ok rules →
        StageApplies vars files a before r registry (applyAll rules.operations)) ∧
    (∀ e, now.get? r = none → files.isFile r = true → Source.load files r none none = .error e →
      prepare vars files a = .error e) ∧
    (now.get? r = none → files.isFile r = false →
      prepare vars files a = .error (.unknownDirective r)) ∧
    (∀ rules, files.isFile r = true → Source.load files r none none = .ok rules →
      (StageApplies vars files a before r registry (applyAll rules.operations) ↔
        ∀ d, now.get? r = some d → d.apply = applyAll rules.operations)) ∧
    ∀ d, now.get? r = some d →
      registry.get? r = some d ∨ ∃ key ∈ before, Registry.FileStands files key r d := by
  have hstands (d : Directive) (hd : now.get? r = some d) :
      StageApplies vars files a before r registry d.apply :=
    h.stageApplies (Registry.getOrRegister_of_get? hd)
  have hfile (rules : Source.Rules) (hnone : now.get? r = none) (hf : files.isFile r = true)
      (hl : Source.load files r none none = .ok rules) :
      StageApplies vars files a before r registry (applyAll rules.operations) :=
    h.stageApplies (Registry.getOrRegister_of_load hnone hf hl)
  refine ⟨hstands, hfile, ?_, ?_, ?_, ?_⟩
  · intro e hnone hf hl
    exact h.prepare_eq_error (Registry.getOrRegister_of_load_error hnone hf hl)
  · intro hnone hf
    exact h.prepare_eq_error (Registry.getOrRegister_of_not_isFile hnone hf)
  · intro rules hf hl
    constructor
    · intro hstage d hd
      exact (hstands d hd).unique hstage
    · intro hagree
      cases hd : now.get? r with
      | some d =>
        rw [← hagree d hd]
        exact hstands d hd
      | none => exact hfile rules hd hf hl
  · intro d hd
    exact Registry.stands_of_lookAll h.reached hd

/-- A line with a rule. -/
def ruleLine : Text := "a\tb\t1".toList

/-- A file with that line, whose path is the name of the directive that converts LaTeX. -/
def namesake : Files :=
  (Files.mk Table.empty []).set [Latex.directiveName] (.file (Files.encode ruleLine))

/-- The rules of that file. -/
def namesakeRules : Source.Rules := ⟨Latex.directiveName, [Resolver.literalRule ['a'] ['b']]⟩

theorem rows_ruleLine :
    Source.rows {} ruleLine = .ok [(1, ⟨some ['a'], some ['b'], some .literal, none⟩)] := by
  have hlines : Text.lines ruleLine = [ruleLine] := by cbv
  have hline : Text.trim ruleLine = ruleLine := by cbv
  have hholds : Source.holdsRule ruleLine = true := by decide
  have hcut : Source.cutComment {} ruleLine = (ruleLine, none) := by cbv
  have hfields : Source.fieldsOf ['\t'] (Source.dropSuffixes ['\t'] ruleLine) =
      [['a'], ['b'], ['1']] := by cbv
  have hkind : Rule.Kind.read? ['1'] = some .literal := by decide +kernel
  have htrim : Text.trim ['1'] = ['1'] := by cbv
  simp [Source.rows, Source.rowsFrom, hlines, hline, hholds, Source.readRow, hcut, hfields,
    Rule.Row.ofFields, htrim, hkind, Except.map]

theorem load_namesake :
    Source.load namesake Latex.directiveName none none = .ok namesakeRules := by
  have hformat : Source.Format.detect Latex.directiveName none = .ok .delimited := by cbv
  have htext : namesake.readText Latex.directiveName = .ok ruleLine := by cbv
  have hconfig : Source.config ruleLine = {} := by cbv
  have hname : Source.nameOfPath Latex.directiveName = Latex.directiveName := by cbv
  rw [Source.load, hformat, htext]
  simp only [Source.loadText, Source.readText, Source.readDelimited, rows_ruleLine, hconfig,
    hname]
  rfl

/-- A rule file that is asked for by its path is passed over for the built-in directive of the same
name, which does otherwise. -/
theorem stage_passes_over_namesake :
    let a : Arguments := { inputs := [['a']], directives := [Latex.directiveName] }
    let builtins := Registry.addBuiltins 0 Table.empty
    Turn Table.empty namesake a [] Latex.directiveName [] builtins builtins ∧
      namesake.isFile Latex.directiveName = true ∧
      Source.load namesake Latex.directiveName none none = .ok namesakeRules ∧
      StageApplies Table.empty namesake a [] Latex.directiveName builtins Latex.toText ∧
      ¬ StageApplies Table.empty namesake a [] Latex.directiveName builtins
        (applyAll namesakeRules.operations) := by
  intro a builtins
  have hdirectory : dataDirectory Table.empty namesake a = none := by cbv
  have hturn : Turn Table.empty namesake a [] Latex.directiveName [] builtins builtins :=
    ⟨rfl, by simp [startRegistry, hdirectory, builtins], rfl⟩
  have hfile : namesake.isFile Latex.directiveName = true := by cbv
  have hbuiltin : builtins.get? Latex.directiveName =
      some (.function (.function 0 Latex.toText)) := rfl
  obtain ⟨hstands, -, -, -, hiff, -⟩ := hturn.stage_applies_file_iff
  refine ⟨hturn, hfile, load_namesake, hstands _ hbuiltin, ?_⟩
  rw [hiff _ hfile load_namesake]
  intro hagree
  have hsame : Latex.toText ['a'] = applyAll namesakeRules.operations ['a'] :=
    congrFun (hagree _ hbuiltin) ['a']
  have hconverted : Latex.toText ['a'] = .ok ['a'] := by cbv
  have hreplaced : applyAll namesakeRules.operations ['a'] = .ok ['b'] := by cbv
  rw [hconverted, hreplaced] at hsame
  exact absurd hsame (by simp)

end Command

end Lector
