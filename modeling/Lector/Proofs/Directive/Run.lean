import Lector.Directive.Resolver

/-!
# Runs of resolvers

A resolver is used act by act: directives are registered, references are resolved, and notes are
turned on and off. Files may change between any two acts, so that each resolution brings the files
that are there then. Beside the resolver stands the plain registry, which keeps nothing of what was
resolved before and looks each reference up again.

## Main definitions

* `Act`, `Answer`: what is done with a resolver, and what is seen of it
* `Resolver.step`, `Resolver.run`: a resolver act by act
* `Registry.find`, `Registry.step`, `Registry.run`: the registry alone, act by act
* `Directive.apply`: what a directive makes of a text

## Main results

* `Registry.ensure_cases`: all outcomes of making sure of a reference
* `Registry.ensure_eq_ok`: all that making sure of a reference can do to a registry
* `Resolver.resolveNamed_eq_ok`: all that resolving a name can do to a resolver
* `Resolver.step_cases`: all that an act can do to a resolver
-/

namespace Lector

open Rule (Operation applyAll)

/-- What is done with a resolver. -/
inductive Act
  | register (key : Text) (directive : Directive)
  | resolve (files : Files) (reference : Reference)
  | note (on : Bool)

/-- What is seen of an act, where a resolved reference gives an `α`. -/
inductive Answer (α : Type)
  /-- The directive that was there before. -/
  | replaced (previous : Option Directive)
  | resolved (result : Except Error α)
  | silent

/-- The answer with what a reference leads to seen through `f`. -/
def Answer.map {α β : Type} (f : α → β) : Answer α → Answer β
  | replaced previous => .replaced previous
  | resolved result => .resolved (result.map f)
  | silent => .silent

/-- What a directive makes of a text. -/
def Directive.apply : Directive → Text → Except Error Text
  | operations ops => applyAll ops
  | function transformation => transformation.apply

namespace Registry

variable {files : Files} {key : Text} {r r' : Registry}

/-- **All outcomes of making sure of a reference**: it stands already, its file is loaded and
registered, its file does not load, or there is no file. -/
theorem ensure_cases (files : Files) (key : Text) (r : Registry) :
    (r.contains key = true ∧ ensure files key r = .ok (none, r)) ∨
    (r.contains key = false ∧ files.isFile key = true ∧
      ∃ rules, Source.load files key none none = .ok rules ∧
        ensure files key r = .ok (some rules.name, addFile key rules r)) ∨
    (r.contains key = false ∧ files.isFile key = true ∧
      ∃ e, Source.load files key none none = .error e ∧ ensure files key r = .error e) ∨
    (r.contains key = false ∧ files.isFile key = false ∧
      ensure files key r = .error (.unknownDirective key)) := by
  unfold ensure registerFile
  cases hc : r.contains key with
  | true => exact .inl ⟨rfl, by simp⟩
  | false =>
    cases hf : files.isFile key with
    | false => exact .inr (.inr (.inr ⟨rfl, rfl, by simp⟩))
    | true =>
      cases hl : Source.load files key none none with
      | ok rules => exact .inr (.inl ⟨rfl, rfl, rules, rfl, by simp⟩)
      | error e => exact .inr (.inr (.inl ⟨rfl, rfl, e, rfl, by simp⟩))

/-- **All that making sure of a reference can do**: it stands already and nothing changes, or its
file is loaded and registered. -/
theorem ensure_eq_ok {loaded : Option Text} (h : ensure files key r = .ok (loaded, r')) :
    (r.contains key = true ∧ loaded = none ∧ r' = r) ∨
      ∃ rules, Source.load files key none none = .ok rules ∧ loaded = some rules.name ∧
        r' = addFile key rules r := by
  rcases ensure_cases files key r with
    ⟨hc, he⟩ | ⟨-, -, rules, hl, he⟩ | ⟨-, -, e, -, he⟩ | ⟨-, -, he⟩
  · cases he.symm.trans h
    exact .inl ⟨hc, rfl, rfl⟩
  · cases he.symm.trans h
    exact .inr ⟨rules, hl, rfl, rfl⟩
  · cases he.symm.trans h
  · cases he.symm.trans h

/-- What was made sure of stands. -/
theorem exists_get?_of_ensure {loaded : Option Text} (h : ensure files key r = .ok (loaded, r')) :
    ∃ d, r'.get? key = some d := by
  rcases ensure_eq_ok h with ⟨hc, -, rfl⟩ | ⟨rules, -, -, rfl⟩
  · exact Option.isSome_iff_exists.mp hc
  · exact ⟨.operations rules.operations, by simp⟩

theorem ensure_of_contains (hc : r.contains key = true) : ensure files key r = .ok (none, r) := by
  simp [ensure, hc]

theorem getOrRegister_of_get? {d : Directive} (h : r.get? key = some d) :
    getOrRegister files key r = .ok (d, r) := by
  have hc : r.contains key = true := by simp [Table.contains, h]
  simp [getOrRegister, ensure_of_contains hc, h]

theorem getOrRegister_of_ensure {loaded : Option Text} {d : Directive}
    (h : ensure files key r = .ok (loaded, r')) (hd : r'.get? key = some d) :
    getOrRegister files key r = .ok (d, r') := by
  simp [getOrRegister, h, hd]

theorem getOrRegister_of_ensure_error {e : Error} (h : ensure files key r = .error e) :
    getOrRegister files key r = .error e := by
  simp [getOrRegister, h]

/-- The directive that a reference leads to when nothing is kept, with the registry after that. -/
def find (files : Files) : Reference → Registry → Except Error (Directive × Registry)
  | .named key, r => getOrRegister files key r
  | .operations ops, r => .ok (.operations ops, r)
  | .function transformation, r => .ok (.function transformation, r)

/-- An act on the registry alone. -/
def step (r : Registry) : Act → Answer Directive × Registry
  | .register key directive => (.replaced (r.get? key), r.insert key directive)
  | .resolve files reference =>
    match find files reference r with
    | .error e => (.resolved (.error e), r)
    | .ok (directive, r) => (.resolved (.ok directive), r)
  | .note _ => (.silent, r)

/-- Acts on the registry alone, one after another. -/
def run (r : Registry) : List Act → List (Answer Directive) × Registry
  | [] => ([], r)
  | act :: acts =>
    let (answer, r) := r.step act
    let (answers, r) := r.run acts
    (answer :: answers, r)

end Registry

namespace Resolver

/-- An act on a resolver. One that fails changes nothing. -/
def step (r : Resolver) : Act → Answer Transformation × Resolver
  | .register key directive => (.replaced (r.registry.get? key), r.register key directive)
  | .resolve files reference =>
    match r.resolve files reference with
    | .error e => (.resolved (.error e), r)
    | .ok (transformation, r) => (.resolved (.ok transformation), r)
  | .note on => (.silent, { r with notes := on })

/-- Acts on a resolver, one after another. -/
def run (r : Resolver) : List Act → List (Answer Transformation) × Resolver
  | [] => ([], r)
  | act :: acts =>
    let (answer, r) := r.step act
    let (answers, r) := r.run acts
    (answer :: answers, r)

/-- The resolvers that acts lead to from one that has made nothing of its registry yet. -/
inductive Reached : Resolver → Prop
  | new (registry : Registry) (notes : Bool) (next : Nat) :
      Reached (ofRegistry registry notes next)
  | step {r : Resolver} (act : Act) (h : Reached r) : Reached (r.step act).2

variable {files : Files} {key : Text} {r r' : Resolver} {t : Transformation}

theorem Reached.run (h : Reached r) (acts : List Act) : Reached (r.run acts).2 := by
  induction acts generalizing r with
  | nil => exact h
  | cons act acts ih => exact ih (h.step act)

/-- What a resolver makes of a directive does what the directive does. -/
@[simp] theorem apply_wrap (r : Resolver) (key : Text) (d : Directive) :
    (r.wrap key d).apply = d.apply := by
  cases d <;> rfl

theorem resolveNamed_of_cached (h : r.cache.get? key = some t) :
    resolveNamed files key r = .ok (t, r) := by
  simp [resolveNamed, h]

/-- What is kept once a name has been resolved: the file that was read for it may have changed what
stands under another name, which is dropped. -/
def keep (r : Resolver) (loaded : Option Text) (key : Text) (t : Transformation) :
    Table Text Transformation :=
  (match loaded with
    | some name => r.cache.erase name
    | none => r.cache).insert key t

/-- A name of which nothing is kept is resolved by the registry. -/
theorem resolveNamed_of_ensure {loaded : Option Text} {registry : Registry} {d : Directive}
    (hk : r.cache.get? key = none)
    (h : Registry.ensure files key r.registry = .ok (loaded, registry))
    (hd : registry.get? key = some d) :
    resolveNamed files key r = .ok (r.wrap key d, { r with
      registry
      cache := r.keep loaded key (r.wrap key d)
      next := r.next + 1 }) := by
  simp only [resolveNamed, hk, h, Registry.getOrRegister_of_get? hd]
  rfl

theorem resolveNamed_of_ensure_error {e : Error} (hk : r.cache.get? key = none)
    (h : Registry.ensure files key r.registry = .error e) :
    resolveNamed files key r = .error e := by
  simp [resolveNamed, hk, h]

/-- **All that resolving a name can do**: what is kept of it is given again and nothing changes, or
the registry makes sure of it and what is made of its directive is kept. -/
theorem resolveNamed_eq_ok (h : resolveNamed files key r = .ok (t, r')) :
    (r.cache.get? key = some t ∧ r' = r) ∨
      ∃ loaded registry d, r.cache.get? key = none ∧
        Registry.ensure files key r.registry = .ok (loaded, registry) ∧
        registry.get? key = some d ∧ t = r.wrap key d ∧
        r' = { r with registry, cache := r.keep loaded key t, next := r.next + 1 } := by
  cases hk : r.cache.get? key with
  | some u =>
    rw [resolveNamed_of_cached hk] at h
    cases h
    exact .inl ⟨rfl, rfl⟩
  | none =>
    cases he : Registry.ensure files key r.registry with
    | error e => simp [resolveNamed_of_ensure_error hk he] at h
    | ok p =>
      obtain ⟨loaded, registry⟩ := p
      obtain ⟨d, hd⟩ := Registry.exists_get?_of_ensure he
      rw [resolveNamed_of_ensure hk he hd] at h
      cases h
      exact .inr ⟨loaded, registry, d, rfl, rfl, hd, rfl, rfl⟩

/-- **All that an act can do to a resolver**: a directive is registered, a name is resolved, or the
registry and what is kept stay as they are. -/
theorem step_cases (r : Resolver) (act : Act) :
    (∃ key d, act = .register key d ∧ (r.step act).2 = r.register key d) ∨
    (∃ files key t, resolveNamed files key r = .ok (t, (r.step act).2)) ∨
    ((r.step act).2.registry = r.registry ∧ (r.step act).2.cache = r.cache ∧
      r.next ≤ (r.step act).2.next) := by
  cases act with
  | register key d => exact .inl ⟨key, d, rfl, rfl⟩
  | note on => exact .inr (.inr ⟨rfl, rfl, Nat.le_refl _⟩)
  | resolve files reference =>
    cases reference with
    | operations ops => exact .inr (.inr ⟨rfl, rfl, Nat.le_succ _⟩)
    | function f => exact .inr (.inr ⟨rfl, rfl, Nat.le_refl _⟩)
    | named key =>
      simp only [Resolver.step, Resolver.resolve]
      cases hr : resolveNamed files key r with
      | error e => exact .inr (.inr ⟨rfl, rfl, Nat.le_refl _⟩)
      | ok p => exact .inr (.inl ⟨files, key, p.1, hr⟩)

end Resolver

end Lector
