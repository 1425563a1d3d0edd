import Lector.Proofs.Directive.Run

/-!
# What a resolver keeps agrees with its registry

A resolver keeps the transformations that it made of names and paths. In every resolver that acts
lead to, what is kept of a key is backed by the directive that stands under the key now, although a
file that is read for one key registers its directive under another key as well. So nobody who
looks at texts alone can tell a resolver from the plain registry.

## Main definitions

* `Registry.Backs`: a registry backs a transformation under a key
* `Resolver.Coherent`: all that a resolver keeps is backed

## Main results

* `Resolver.Reached.coherent`: resolvers are coherent, whatever was done with them
* `Resolver.Coherent.run_agrees`: a coherent resolver answers as its registry does
* `Resolver.run_ofRegistry_coherent`: both, for the runs of a new resolver
-/

namespace Lector

/-- A registry backs a transformation under a key: the transformation is the function that stands
there, or it substitutes by the rules that stand there. -/
def Registry.Backs (registry : Registry) (key : Text) (t : Transformation) : Prop :=
  registry.get? key = some (.function t) ∨
    ∃ ops number notes, registry.get? key = some (.operations ops) ∧
      t = .substitution number (some key) ops notes

/-- A backed transformation does what the directive under the key does. -/
theorem Registry.Backs.exists_apply {registry : Registry} {key : Text} {t : Transformation}
    (h : registry.Backs key t) : ∃ d, registry.get? key = some d ∧ t.apply = d.apply := by
  rcases h with h | ⟨ops, number, notes, h, rfl⟩
  · exact ⟨.function t, h, rfl⟩
  · exact ⟨.operations ops, h, rfl⟩

/-- Only the entry under the key matters. -/
theorem Registry.Backs.congr {registry registry' : Registry} {key : Text} {t : Transformation}
    (h : registry.Backs key t) (he : registry'.get? key = registry.get? key) :
    registry'.Backs key t := by
  unfold Registry.Backs at h ⊢
  rw [he]
  exact h

namespace Resolver

variable {r r' : Resolver} {files : Files} {key : Text} {t : Transformation}

/-- All that a resolver keeps is backed by its registry. -/
def Coherent (r : Resolver) : Prop :=
  ∀ key t, r.cache.get? key = some t → r.registry.Backs key t

/-- What is made of the directive under a key is backed. -/
theorem backs_wrap {registry : Registry} {d : Directive} (r : Resolver)
    (hd : registry.get? key = some d) : registry.Backs key (r.wrap key d) := by
  cases d with
  | operations ops => exact .inr ⟨ops, r.next, r.notes, hd, rfl⟩
  | function f => exact .inl hd

theorem coherent_ofRegistry (registry : Registry) (notes : Bool) (next : Nat) :
    (ofRegistry registry notes next).Coherent := by
  intro key t h
  simp [ofRegistry] at h

/-- A new entry drops what was kept of its key, and leaves the other keys alone. -/
theorem Coherent.register (h : r.Coherent) (key : Text) (d : Directive) :
    (r.register key d).Coherent := by
  intro k t hk
  simp only [Resolver.register, Table.get?_erase] at hk
  split at hk
  next => cases hk
  next hne =>
    refine (h k t hk).congr ?_
    simp [Resolver.register, hne]

/-- What is kept after a name was resolved: of the name itself what was made just now, and of other
names what was kept before, unless they name the directive of the file that was read. -/
theorem get?_keep {loaded : Option Text} {k : Text} {u : Transformation}
    (h : (r.keep loaded key t).get? k = some u) :
    (k = key ∧ u = t) ∨ (k ≠ key ∧ loaded ≠ some k ∧ r.cache.get? k = some u) := by
  unfold keep at h
  rw [Table.get?_insert] at h
  split at h
  next hk =>
    cases h
    exact .inl ⟨hk, rfl⟩
  next hk =>
    cases loaded with
    | none => exact .inr ⟨hk, by simp, h⟩
    | some name =>
      rw [Table.get?_erase] at h
      split at h
      next => cases h
      next hn => exact .inr ⟨hk, by simpa using Ne.symm hn, h⟩

/-- Making sure of a key leaves all entries alone but those of the key and of the directive that was
loaded. -/
theorem get?_of_ensure {loaded : Option Text} {registry registry' : Registry} {k : Text}
    (h : Registry.ensure files key registry = .ok (loaded, registry')) (hk : k ≠ key)
    (hl : loaded ≠ some k) : registry'.get? k = registry.get? k := by
  rcases Registry.ensure_eq_ok h with ⟨-, -, rfl⟩ | ⟨rules, -, rfl, rfl⟩
  · rfl
  · have hn : k ≠ rules.name := fun e => hl (e ▸ rfl)
    simp [hk, hn]

theorem Coherent.resolveNamed (h : r.Coherent) (hr : resolveNamed files key r = .ok (t, r')) :
    r'.Coherent := by
  rcases resolveNamed_eq_ok hr with ⟨-, rfl⟩ | ⟨loaded, registry, d, -, he, hd, rfl, rfl⟩
  · exact h
  · intro k u hu
    -- The file that was read stands under two keys: what was kept of the one is made anew, and what
    -- was kept of the other is dropped.
    rcases get?_keep hu with ⟨rfl, rfl⟩ | ⟨hk, hl, hu⟩
    · exact backs_wrap r hd
    · exact (h k u hu).congr (get?_of_ensure he hk hl)

/-- **A step keeps coherence**, also a lazy load that shadows another name and a step that fails. -/
theorem Coherent.step (h : r.Coherent) (act : Act) : (r.step act).2.Coherent := by
  cases act with
  | register key d => exact h.register key d
  | note on => exact h
  | resolve files reference =>
    simp only [Resolver.step]
    cases hr : r.resolve files reference with
    | error e => exact h
    | ok p =>
      obtain ⟨t, r'⟩ := p
      cases reference with
      | named key => exact h.resolveNamed hr
      | operations ops =>
        cases hr
        exact h
      | function f =>
        cases hr
        exact h

theorem Reached.coherent (h : Reached r) : r.Coherent := by
  induction h with
  | new registry notes next => exact coherent_ofRegistry registry notes next
  | step act _ ih => exact ih.step act

/-- A resolved name is backed by the registry as it is after the call. -/
theorem Coherent.backs_of_resolveNamed (h : r.Coherent)
    (hr : Resolver.resolveNamed files key r = .ok (t, r')) : r'.registry.Backs key t := by
  rcases resolveNamed_eq_ok hr with ⟨hk, rfl⟩ | ⟨loaded, registry, d, -, he, hd, rfl, rfl⟩
  · exact h key t hk
  · exact backs_wrap r hd

/-- A coherent resolver and its registry agree on a name: both fail alike, or what they give does
the same and leaves the same registry. -/
theorem Coherent.resolveNamed_agrees (h : r.Coherent) (files : Files) (key : Text) :
    (Resolver.resolveNamed files key r).map (fun p => (p.1.apply, p.2.registry)) =
      (Registry.getOrRegister files key r.registry).map fun p => (p.1.apply, p.2) := by
  cases hk : r.cache.get? key with
  | some t =>
    obtain ⟨d, hd, ht⟩ := (h key t hk).exists_apply
    rw [resolveNamed_of_cached hk, Registry.getOrRegister_of_get? hd]
    simp [Except.map, ht]
  | none =>
    cases he : Registry.ensure files key r.registry with
    | error e =>
      rw [resolveNamed_of_ensure_error hk he, Registry.getOrRegister_of_ensure_error he]
      rfl
    | ok p =>
      obtain ⟨loaded, registry⟩ := p
      obtain ⟨d, hd⟩ := Registry.exists_get?_of_ensure he
      rw [resolveNamed_of_ensure hk he hd, Registry.getOrRegister_of_ensure he hd]
      simp [Except.map]

theorem Coherent.resolve_agrees (h : r.Coherent) (files : Files) (reference : Reference) :
    (r.resolve files reference).map (fun p => (p.1.apply, p.2.registry)) =
      (Registry.find files reference r.registry).map fun p => (p.1.apply, p.2) := by
  cases reference with
  | named key => exact h.resolveNamed_agrees files key
  | operations ops => rfl
  | function f => rfl

theorem Coherent.step_agrees (h : r.Coherent) (act : Act) :
    (r.step act).1.map Transformation.apply = (r.registry.step act).1.map Directive.apply ∧
      (r.step act).2.registry = (r.registry.step act).2 := by
  cases act with
  | register key d => exact ⟨rfl, rfl⟩
  | note on => exact ⟨rfl, rfl⟩
  | resolve files reference =>
    have ha := h.resolve_agrees files reference
    simp only [Resolver.step, Registry.step]
    cases hr : r.resolve files reference with
    | error e =>
      cases hf : Registry.find files reference r.registry with
      | error e' =>
        rw [hr, hf] at ha
        cases ha
        exact ⟨rfl, rfl⟩
      | ok q => simp [hr, hf, Except.map] at ha
    | ok p =>
      cases hf : Registry.find files reference r.registry with
      | error e' => simp [hr, hf, Except.map] at ha
      | ok q =>
        simp only [hr, hf, Except.map, Except.ok.injEq, Prod.mk.injEq] at ha
        exact ⟨by simp [Answer.map, Except.map, ha.1], ha.2⟩

/-- **A coherent resolver answers as its registry does**: whatever acts follow, both give the same
answers, up to what transformations make of texts, and come to the same registry. -/
theorem Coherent.run_agrees (h : r.Coherent) (acts : List Act) :
    (r.run acts).1.map (Answer.map Transformation.apply) =
        (r.registry.run acts).1.map (Answer.map Directive.apply) ∧
      (r.run acts).2.registry = (r.registry.run acts).2 := by
  -- The registry alone goes on from where the resolver's registry has come to.
  induction acts generalizing r with
  | nil => exact ⟨rfl, rfl⟩
  | cons act acts ih =>
    obtain ⟨ha, hr⟩ := h.step_agrees act
    obtain ⟨has, hrs⟩ := ih (h.step act)
    rw [hr] at has hrs
    simp only [Resolver.run, Registry.run, List.map_cons]
    exact ⟨by rw [ha, has], hrs⟩

/-- **What a resolver keeps agrees with its registry**, whatever acts led to it and whatever files
there were: all that it keeps is backed by the directives that stand now, a name that it resolves
does what a transformation made afresh of the directive under the name does, and all that was seen
of it is what would have been seen of the plain registry. -/
theorem run_ofRegistry_coherent (registry : Registry) (notes : Bool) (next : Nat)
    (acts : List Act) :
    (∀ key t, ((ofRegistry registry notes next).run acts).2.cache.get? key = some t →
        ((ofRegistry registry notes next).run acts).2.registry.Backs key t) ∧
      (∀ files key t r',
        ((ofRegistry registry notes next).run acts).2.resolve files (.named key) = .ok (t, r') →
          ∃ d, r'.registry.get? key = some d ∧ ∀ text, t.apply text = (r'.wrap key d).apply text) ∧
      ((ofRegistry registry notes next).run acts).1.map (Answer.map Transformation.apply) =
        (registry.run acts).1.map (Answer.map Directive.apply) ∧
      ((ofRegistry registry notes next).run acts).2.registry = (registry.run acts).2 := by
  have hc : ((ofRegistry registry notes next).run acts).2.Coherent :=
    ((Reached.new registry notes next).run acts).coherent
  refine ⟨hc, ?_, (coherent_ofRegistry registry notes next).run_agrees acts⟩
  intro files key t r' hr
  obtain ⟨d, hd, ht⟩ := (hc.backs_of_resolveNamed hr).exists_apply
  refine ⟨d, hd, fun text => ?_⟩
  rw [apply_wrap, ht]

/-- The rule that puts one text in the place of another. -/
def literalRule (search replacement : Text) : Rule.Operation := ⟨search, replacement, none, .literal⟩

/-- What is kept of a name that was registered again after it had been resolved is backed by what
was registered last. -/
theorem backs_registered_again :
    ((ofRegistry Table.empty false 0).run [.register ['n'] (.operations []),
        .resolve ⟨Table.empty, []⟩ (.named ['n']),
        .register ['n'] (.operations [literalRule ['a'] ['b']]), .note true,
        .resolve ⟨Table.empty, []⟩ (.named ['n'])]).2.registry.Backs ['n']
      (.substitution 1 (some ['n']) [literalRule ['a'] ['b']] true) :=
  (run_ofRegistry_coherent _ _ _ _).1 ['n'] _ rfl

end Resolver

end Lector
