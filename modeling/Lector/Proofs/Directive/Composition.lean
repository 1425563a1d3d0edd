import Mathlib.Data.List.Forall2
import Lector.Proofs.Directive.Coherence
import Lector.Proofs.Directive.Nesting

/-!
# Lists of rules one after another

Rules may be applied as one long list, list by list, or by a pipeline whose stages are resolved from
the names of the lists. All three make the same of every text. A rule that fails ends all three at
the same place, and the pipeline blames the list that the rule comes from.

## Main definitions

* `Pipeline.Follows`: the stages of a pipeline substitute by given lists of rules

## Main results

* `Rule.applyAll_eq_error_iff`: a list fails where its first failing rule does
* `Pipeline.Follows.run_of_fail`: the blame for a failing list
* `Pipeline.build_run_eq_applyAll`: the composition law
-/

namespace Lector

namespace Rule

variable {op : Operation} {ops : List Operation} {t : Text} {e : Error}

/-- Rules fail with errors of their own, never with one that names a stage. -/
theorem Operation.isStage_of_apply (h : op.apply t = .error e) : e.isStage = false := by
  unfold Operation.apply at h
  cases hr : op.replace? t with
  | ok result => simp [hr, Except.map] at h
  | error e' =>
    rw [hr] at h
    cases h
    unfold Operation.replace? at hr
    split at hr
    next matcher template _ =>
      cases hm : replaceRun t template (matcher.run t) with
      | ok result => simp [hm] at hr
      | error fault =>
        rw [hm] at hr
        cases hr
        rfl
    next => split at hr <;> cases hr

theorem applyAll_append (a b : List Operation) (t : Text) :
    applyAll (a ++ b) t = (applyAll a t).bind (applyAll b) := by
  simp only [applyAll, List.foldlM_append]
  rfl

theorem applyAll_append_eq_ok {a b : List Operation} {u : Text}
    (h : applyAll (a ++ b) t = .ok u) : ∃ v, applyAll a t = .ok v ∧ applyAll b v = .ok u := by
  rw [applyAll_append] at h
  cases ha : applyAll a t with
  | error e => simp [ha, Except.bind] at h
  | ok v =>
    rw [ha] at h
    exact ⟨v, rfl, h⟩

/-- Lists of rules are applied one after another. -/
theorem applyAll_flatMap {α : Type} (f : α → List Operation) (ds : List α) (t : Text) :
    applyAll (ds.flatMap f) t = ds.foldlM (fun t d => applyAll (f d) t) t := by
  induction ds generalizing t with
  | nil => rfl
  | cons d ds ih =>
    rw [List.flatMap_cons, applyAll_append, List.foldlM_cons, funext ih]
    rfl

/-- **A list fails where its first failing rule does.** -/
theorem applyAll_eq_error_iff :
    applyAll ops t = .error e ↔
      ∃ a op b u, ops = a ++ op :: b ∧ applyAll a t = .ok u ∧ op.apply u = .error e := by
  constructor
  · intro h
    induction ops generalizing t with
    | nil => cases h
    | cons op ops ih =>
      rw [applyAll_cons] at h
      cases ho : op.apply t with
      | error e' =>
        rw [ho] at h
        cases h
        exact ⟨[], op, ops, t, rfl, rfl, ho⟩
      | ok u =>
        rw [ho] at h
        obtain ⟨a, op', b, v, rfl, ha, hf⟩ := ih h
        exact ⟨op :: a, op', b, v, rfl, by rw [applyAll_cons, ho]; exact ha, hf⟩
  · rintro ⟨a, op, b, u, rfl, ha, hf⟩
    rw [applyAll_append, ha]
    show applyAll (op :: b) u = .error e
    rw [applyAll_cons, hf]
    rfl

theorem isStage_of_applyAll (h : applyAll ops t = .error e) : e.isStage = false := by
  obtain ⟨-, op, -, u, -, -, hf⟩ := applyAll_eq_error_iff.mp h
  exact Operation.isStage_of_apply hf

end Rule

open Rule

/-- A list of rules with the name that it stands under. -/
abbrev NamedRules := Text × List Operation

/-- The rules of all lists, in order. -/
def concatenated (ds : List NamedRules) : List Operation := ds.flatMap Prod.snd

/-- A concatenation fails in one of its lists, to which those in front bring the text. -/
theorem exists_of_concatenated_eq_error {ds : List NamedRules} {t : Text} {e : Error}
    (h : applyAll (concatenated ds) t = .error e) :
    ∃ before d after u, ds = before ++ d :: after ∧
      applyAll (concatenated before) t = .ok u ∧ applyAll d.2 u = .error e := by
  induction ds generalizing t with
  | nil => cases h
  | cons d ds ih =>
    rw [concatenated, List.flatMap_cons, applyAll_append] at h
    cases hd : applyAll d.2 t with
    | error e' =>
      rw [hd] at h
      cases h
      exact ⟨[], d, ds, t, rfl, rfl, hd⟩
    | ok u =>
      rw [hd] at h
      obtain ⟨before, d', after, v, rfl, hb, hf⟩ := ih h
      refine ⟨d :: before, d', after, v, rfl, ?_, hf⟩
      rw [concatenated, List.flatMap_cons, applyAll_append, hd]
      exact hb

/-- A resolver finds each list of rules under its name. -/
def Resolver.Holds (r : Resolver) (ds : List NamedRules) : Prop :=
  ∀ d ∈ ds, r.registry.get? d.1 = some (.operations d.2)

/-- A resolved name of a list of rules substitutes by the list, and the registry stays as it is. -/
theorem Resolver.Coherent.exists_resolveNamed {r : Resolver} (h : r.Coherent) (files : Files)
    {name : Text} {ops : List Operation} (hd : r.registry.get? name = some (.operations ops)) :
    ∃ t r', Resolver.resolveNamed files name r = .ok (t, r') ∧ t.apply = applyAll ops ∧
      r'.registry = r.registry ∧ r'.Coherent := by
  have ha := h.resolveNamed_agrees files name
  rw [Registry.getOrRegister_of_get? hd] at ha
  cases hr : Resolver.resolveNamed files name r with
  | error e => simp [hr, Except.map] at ha
  | ok p =>
    obtain ⟨t, r'⟩ := p
    simp only [hr, Except.map, Except.ok.injEq, Prod.mk.injEq] at ha
    exact ⟨t, r', rfl, ha.1, ha.2, h.resolveNamed hr⟩

namespace Pipeline

/-- The stages of a pipeline substitute by lists of rules, and bear their names. -/
def Follows (p : Pipeline) (ds : List NamedRules) : Prop :=
  List.Forall₂ (fun s d => s.label = d.1 ∧ s.transformation.apply = applyAll d.2) p ds

theorem build_cons {files : Files} {reference : Reference} {references : List Reference}
    {r r₁ r' : Resolver} {t : Transformation} {p : Pipeline}
    (ht : r.resolve files reference = .ok (t, r₁))
    (hp : build files references r₁ = (.ok p, r')) :
    build files (reference :: references) r = (.ok (⟨reference.label, t⟩ :: p), r') := by
  rw [build, ht]
  simp only [hp]

/-- The pipeline of the names of lists of rules is built, and follows the lists. -/
theorem exists_build (files : Files) {r : Resolver} (hc : r.Coherent) {ds : List NamedRules}
    (hr : r.Holds ds) :
    ∃ p r', build files (ds.map fun d => .named d.1) r = (.ok p, r') ∧ p.Follows ds := by
  induction ds generalizing r with
  | nil => exact ⟨[], r, by simp [build], List.Forall₂.nil⟩
  | cons d ds ih =>
    obtain ⟨t, r₁, ht, happly, hreg, hc₁⟩ := hc.exists_resolveNamed files (hr d (by simp))
    have hr₁ : r₁.Holds ds := by
      intro d' hd'
      rw [hreg]
      exact hr d' (by simp [hd'])
    obtain ⟨p, r', hb, hf⟩ := ih hc₁ hr₁
    have hres : r.resolve files (.named d.1) = .ok (t, r₁) := ht
    exact ⟨⟨d.1, t⟩ :: p, r', build_cons hres hb, List.Forall₂.cons ⟨rfl, happly⟩ hf⟩

variable {p : Pipeline} {ds : List NamedRules} {t u : Text} {e : Error}

/-- A pipeline gives what the lists give that it follows. -/
theorem Follows.run_of_ok (h : p.Follows ds) (ha : applyAll (concatenated ds) t = .ok u) :
    p.run t = .ok u := by
  induction ds generalizing p t with
  | nil =>
    obtain rfl := List.forall₂_nil_right_iff.mp h
    exact ha
  | cons d ds ih =>
    obtain ⟨s, p, hs, hp, rfl⟩ := List.forall₂_cons_right_iff.mp h
    obtain ⟨v, hd, ha⟩ := applyAll_append_eq_ok ha
    rw [run_cons, Stage.run_of_apply (by rw [hs.2, hd])]
    exact ih hp ha

/-- **The blame for a failing list** falls on its name, and on nothing else. -/
theorem Follows.run_of_fail {before after : List NamedRules} {d : NamedRules}
    (h : p.Follows (before ++ d :: after)) (hb : applyAll (concatenated before) t = .ok u)
    (hd : applyAll d.2 u = .error e) : p.run t = .error (.stage d.1 e) := by
  induction before generalizing p t with
  | nil =>
    cases hb
    obtain ⟨s, p, hs, -, rfl⟩ := List.forall₂_cons_right_iff.mp h
    rw [run_cons, Stage.run_of_apply_error (by rw [hs.2, hd])]
    simp [Except.bind, Stage.blame, isStage_of_applyAll hd, hs.1]
  | cons d' before ih =>
    obtain ⟨s, p, hs, hp, rfl⟩ := List.forall₂_cons_right_iff.mp h
    obtain ⟨v, hd', hb⟩ := applyAll_append_eq_ok hb
    rw [run_cons, Stage.run_of_apply (by rw [hs.2, hd'])]
    exact ih hp hb

/-- A pipeline fails only where the lists fail that it follows. -/
theorem Follows.run_eq_ok_iff (h : p.Follows ds) :
    p.run t = .ok u ↔ applyAll (concatenated ds) t = .ok u := by
  refine ⟨fun hr => ?_, h.run_of_ok⟩
  cases ha : applyAll (concatenated ds) t with
  | ok v =>
    rw [h.run_of_ok ha] at hr
    exact hr
  | error e =>
    obtain ⟨before, d, after, v, rfl, hb, hd⟩ := exists_of_concatenated_eq_error ha
    rw [h.run_of_fail hb hd] at hr
    cases hr

/-- **The composition law.** The concatenation of lists of rules makes of every text what the lists
make of it one after another. The pipeline of names that a resolver holds the lists under is always
built, and gives a text exactly if the concatenation gives it; if a rule fails in the concatenation,
the pipeline blames the name of the list that the rule comes from, and nothing else. -/
theorem build_run_eq_applyAll (ds : List NamedRules) :
    (∀ t, applyAll (concatenated ds) t = ds.foldlM (fun t d => applyAll d.2 t) t) ∧
      ∀ files r, Resolver.Reached r → r.Holds ds →
        ∃ p r', build files (ds.map fun d => .named d.1) r = (.ok p, r') ∧ ∀ t,
          (∀ out, p.run t = .ok out ↔ applyAll (concatenated ds) t = .ok out) ∧
          (∀ before name a op b after u e, ds = before ++ (name, a ++ op :: b) :: after →
            applyAll (concatenated before ++ a) t = .ok u → op.apply u = .error e →
              applyAll (concatenated ds) t = .error e ∧ p.run t = .error (.stage name e)) ∧
          ∀ e, applyAll (concatenated ds) t = .error e →
            ∃ before name a op b after u, ds = before ++ (name, a ++ op :: b) :: after ∧
              applyAll (concatenated before ++ a) t = .ok u ∧ op.apply u = .error e := by
  refine ⟨applyAll_flatMap Prod.snd ds, fun files r hreach hr => ?_⟩
  obtain ⟨p, r', hb, hf⟩ := exists_build files hreach.coherent hr
  refine ⟨p, r', hb, fun t => ⟨fun out => hf.run_eq_ok_iff, ?_, ?_⟩⟩
  · rintro before name a op b after u e rfl ha hop
    have hfail : applyAll (concatenated before ++ a ++ op :: b) t = .error e :=
      applyAll_eq_error_iff.mpr ⟨_, op, b, u, rfl, ha, hop⟩
    obtain ⟨v, hv, ha⟩ := applyAll_append_eq_ok ha
    have hd : applyAll (a ++ op :: b) v = .error e :=
      applyAll_eq_error_iff.mpr ⟨a, op, b, u, rfl, ha, hop⟩
    refine ⟨?_, hf.run_of_fail hv hd⟩
    have hc : concatenated (before ++ (name, a ++ op :: b) :: after) =
        (concatenated before ++ a ++ op :: b) ++ concatenated after := by
      simp [concatenated]
    rw [hc, applyAll_append, hfail]
    rfl
  · intro e he
    obtain ⟨before, ⟨name, ops⟩, after, v, rfl, hv, hd⟩ := exists_of_concatenated_eq_error he
    obtain ⟨a, op, b, u, rfl, ha, hop⟩ := applyAll_eq_error_iff.mp hd
    refine ⟨before, name, a, op, b, after, u, rfl, ?_, hop⟩
    rw [applyAll_append, hv]
    exact ha

/-- The same rules twice, under one name. -/
theorem build_run_repeated_name :
    ∃ p r', build ⟨Table.empty, []⟩ [.named ['n'], .named ['n']]
        ((Resolver.ofRegistry Table.empty false 0).register ['n']
          (.operations [Resolver.literalRule ['a'] ['b', 'a']])) = (.ok p, r') ∧
      p.run ['a'] = .ok ['b', 'b', 'a'] := by
  let d : NamedRules := (['n'], [Resolver.literalRule ['a'] ['b', 'a']])
  let r : Resolver := (Resolver.ofRegistry Table.empty false 0).register d.1 (.operations d.2)
  have hreach : r.Reached := (Resolver.Reached.new Table.empty false 0).step (.register d.1 _)
  have hholds : r.Holds [d, d] := by
    simp [Resolver.Holds, Resolver.register, r]
  obtain ⟨p, r', hb, hp⟩ := (build_run_eq_applyAll [d, d]).2 ⟨Table.empty, []⟩ r hreach hholds
  exact ⟨p, r', hb, ((hp ['a']).1 _).mpr rfl⟩

end Pipeline

end Lector
