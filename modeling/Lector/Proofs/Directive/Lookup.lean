import Mathlib
import Lector.Proofs.Directive.Coherence

/-!
# Looking up in place

A registry may be changed in place, entry by entry, and a resolver drops and adds what it keeps in
between. A call that fails on the way would then leave behind what it has changed so far. The calls
for looking a reference up are written down here in that manner: one statement after another on a
state that outlives a failure. None of them leaves a trace when it fails, so that each does what the
function of the same name does with values. Along the way it is said exactly when a lookup succeeds,
when it reads a file, and what it registers.

## Main definitions

* `Call`: calls that change a state in place and may fail
* `Registry.InPlace.ensure`, `Registry.InPlace.getOrRegister`: lookup in a registry, in place
* `Resolver.InPlace.resolve`: resolution of a reference, in place
* `Registry.LooksUp`, `Resolver.LooksUp`: what lookups of a key do

## Main results

* `Registry.looksUp`: lookup in a registry is atomic and exact
* `Resolver.InPlace.runFrom_resolve`: resolution in place keeps the resolver if it fails
* `Resolver.lookup_atomic`: lookups are atomic and exact
-/

namespace Lector

/-- A call that changes a state in place and may fail. What was changed before a failure stays. -/
abbrev Call (σ α : Type) := ExceptT Error (StateM σ) α

namespace Call

variable {σ α β : Type}

/-- What a call gives when it starts from a state, and the state that it leaves. -/
def runFrom (c : Call σ α) (s : σ) : Except Error α × σ := Id.run (c.run.run s)

/-- The outcome of a call that keeps the state if it fails. -/
def kept (s : σ) : Except Error (α × σ) → Except Error α × σ
  | .ok (a, s') => (.ok a, s')
  | .error e => (.error e, s)

@[simp] theorem kept_ok (s s' : σ) (a : α) : kept s (.ok (a, s')) = (.ok a, s') := rfl

@[simp] theorem kept_error (s : σ) (e : Error) :
    kept s (.error e : Except Error (α × σ)) = (.error e, s) := rfl

theorem kept_eq_ok {s s' : σ} {x : Except Error (α × σ)} {a : α} :
    kept s x = (.ok a, s') ↔ x = .ok (a, s') := by
  cases x with
  | ok p => simp [kept, Prod.ext_iff]
  | error e => simp

theorem kept_eq_error {s s' : σ} {x : Except Error (α × σ)} {e : Error} :
    kept s x = (.error e, s') ↔ x = .error e ∧ s' = s := by
  cases x with
  | ok p => simp [kept]
  | error e => simp [eq_comm]

@[simp] theorem runFrom_pure (a : α) (s : σ) : runFrom (pure a) s = (.ok a, s) := rfl

@[simp] theorem runFrom_throw (e : Error) (s : σ) :
    runFrom (throw e : Call σ α) s = (.error e, s) := rfl

@[simp] theorem runFrom_liftExcept (x : Except Error α) (s : σ) :
    runFrom (liftExcept x) s = (x, s) := by
  cases x <;> rfl

@[simp] theorem runFrom_get (s : σ) : runFrom get s = (.ok s, s) := rfl

@[simp] theorem runFrom_set (s s' : σ) : runFrom (set s') s = (.ok (), s') := rfl

@[simp] theorem runFrom_modify (f : σ → σ) (s : σ) : runFrom (modify f) s = (.ok (), f s) := rfl

/-- After a failure nothing more is done, and the state stays as it is then. -/
@[simp] theorem runFrom_bind (c : Call σ α) (f : α → Call σ β) (s : σ) :
    runFrom (c >>= f) s =
      match runFrom c s with
      | (.ok a, s') => runFrom (f a) s'
      | (.error e, s') => (.error e, s') := by
  show Id.run ((ExceptT.run (c >>= f)).run s) = _
  simp only [runFrom, ExceptT.run_bind, StateT.run_bind]
  rcases c.run.run s with ⟨a | a, s'⟩ <;> rfl

@[simp] theorem runFrom_map (g : α → β) (c : Call σ α) (s : σ) :
    runFrom (g <$> c) s =
      match runFrom c s with
      | (.ok a, s') => (.ok (g a), s')
      | (.error e, s') => (.error e, s') := by
  rw [map_eq_pure_bind, runFrom_bind]
  rcases runFrom c s with ⟨a | a, s'⟩ <;> rfl

end Call

open Call

/-! ## Registries -/

namespace Registry.InPlace

/-- Puts a directive under a key. -/
def put (key : Text) (d : Directive) : Call Registry Unit := modify fun r => r.insert key d

/-- Registers a rule file under the name of its directive, then under its path. -/
def registerFile (files : Files) (path : Text) : Call Registry Text := do
  let rules ← liftExcept (Source.load files path none none)
  put rules.name (.operations rules.operations)
  if path ≠ rules.name then
    put path (.operations rules.operations)
  return rules.name

/-- Registers the file that a reference leads to, unless there is a directive under the reference. -/
def ensure (files : Files) (key : Text) : Call Registry (Option Text) := do
  if (← get).contains key then
    return none
  if files.isFile key then
    return some (← registerFile files key)
  throw (.unknownDirective key)

/-- The directive that a reference leads to. -/
def getOrRegister (files : Files) (key : Text) : Call Registry Directive := do
  let _ ← ensure files key
  match (← get).get? key with
  | some d => return d
  | none => throw (.unknownDirective key)

variable (files : Files) (key : Text) (r : Registry)

theorem runFrom_registerFile :
    (registerFile files key).runFrom r = kept r (Registry.registerFile files key r) := by
  unfold registerFile Registry.registerFile
  cases hl : Source.load files key none none with
  | error e => simp
  | ok rules =>
    by_cases hp : key = rules.name
    · simp [hp, put, addFile]
    · simp [hp, put, addFile]

theorem runFrom_ensure : (ensure files key).runFrom r = kept r (Registry.ensure files key r) := by
  unfold ensure Registry.ensure
  by_cases hc : r.contains key = true
  · simp [hc]
  · by_cases hf : files.isFile key = true
    · simp only [runFrom_bind, runFrom_get, if_neg hc, if_pos hf, runFrom_registerFile]
      cases Registry.registerFile files key r <;> rfl
    · simp [hc, hf]

/-- What was made sure of is found, so that nothing fails after the registry was changed. -/
theorem runFrom_getOrRegister :
    (getOrRegister files key).runFrom r = kept r (Registry.getOrRegister files key r) := by
  unfold getOrRegister
  rw [runFrom_bind, runFrom_ensure]
  cases he : Registry.ensure files key r with
  | error e => simp [getOrRegister_of_ensure_error he]
  | ok p =>
    obtain ⟨loaded, r'⟩ := p
    obtain ⟨d, hd⟩ := exists_get?_of_ensure he
    simp [getOrRegister_of_ensure he hd, hd]

variable {files : Files} {key : Text} {r r' : Registry} {e : Error}

theorem getOrRegister_eq_error_iff :
    Registry.getOrRegister files key r = .error e ↔ Registry.ensure files key r = .error e := by
  cases he : Registry.ensure files key r with
  | error e' => simp [getOrRegister_of_ensure_error he]
  | ok p =>
    obtain ⟨loaded, r'⟩ := p
    obtain ⟨d, hd⟩ := exists_get?_of_ensure he
    simp [getOrRegister_of_ensure he hd]

theorem ensure_known_iff :
    (ensure files key).runFrom r = (.ok none, r') ↔ r.contains key = true ∧ r' = r := by
  rw [runFrom_ensure]
  rcases Registry.ensure_cases files key r with
    ⟨hc, hr⟩ | ⟨hc, -, rules, -, hr⟩ | ⟨hc, -, e, -, hr⟩ | ⟨hc, -, hr⟩
  · simp [hr, hc, eq_comm]
  · simp [hr, hc]
  · simp [hr, hc]
  · simp [hr, hc]

/-- A file that is loaded is registered under both of its keys and nowhere else. -/
theorem ensure_loaded_iff {name : Text} :
    (ensure files key).runFrom r = (.ok (some name), r') ↔
      r.contains key = false ∧ files.isFile key = true ∧
        ∃ rules, Source.load files key none none = .ok rules ∧ rules.name = name ∧
          r' = addFile key rules r := by
  rw [runFrom_ensure]
  rcases Registry.ensure_cases files key r with
    ⟨hc, hr⟩ | ⟨hc, hf, rules, hl, hr⟩ | ⟨hc, hf, e, hl, hr⟩ | ⟨hc, hf, hr⟩
  · simp [hr, hc]
  · simp [hr, hc, hf, hl, eq_comm]
  · simp [hr, hl]
  · simp [hr, hf]

theorem ensure_refused_iff :
    (ensure files key).runFrom r = (.error e, r') ↔
      r.contains key = false ∧ r' = r ∧
        (files.isFile key = false ∧ e = .unknownDirective key ∨
          files.isFile key = true ∧ Source.load files key none none = .error e) := by
  rw [runFrom_ensure]
  rcases Registry.ensure_cases files key r with
    ⟨hc, hr⟩ | ⟨hc, hf, rules, hl, hr⟩ | ⟨hc, hf, e, hl, hr⟩ | ⟨hc, hf, hr⟩
  · simp [hr, hc]
  · simp [hr, hf, hl]
  · simp [hr, hc, hf, hl, eq_comm, and_comm]
  · simp [hr, hc, hf, eq_comm, and_comm]

end Registry.InPlace

/-- What lookups of a key in a registry do, in place. -/
structure Registry.LooksUp (files : Files) (key : Text) (r : Registry) : Prop where
  /-- Nothing is loaded, and nothing changes, exactly if the key stands already. -/
  known : ∀ r', (InPlace.ensure files key).runFrom r = (.ok none, r') ↔
    r.contains key = true ∧ r' = r
  /-- A name is given exactly if the key does not stand and is the path of a file that loads with
  that name. -/
  loaded : ∀ name, (∃ r', (InPlace.ensure files key).runFrom r = (.ok (some name), r')) ↔
    r.contains key = false ∧ files.isFile key = true ∧
      ∃ rules, Source.load files key none none = .ok rules ∧ rules.name = name
  /-- Then the rules of the file stand under the name and under the key, and all else stays. -/
  registered : ∀ name r', (InPlace.ensure files key).runFrom r = (.ok (some name), r') →
    ∃ rules, Source.load files key none none = .ok rules ∧
      r'.get? name = some (.operations rules.operations) ∧
      r'.get? key = some (.operations rules.operations) ∧
      ∀ k, k ≠ name → k ≠ key → r'.get? k = r.get? k
  /-- It fails exactly if the key does not stand and is the path of no file, or of one that does not
  load, and then nothing changes. -/
  refused : ∀ e r', (InPlace.ensure files key).runFrom r = (.error e, r') ↔
    r.contains key = false ∧ r' = r ∧
      (files.isFile key = false ∧ e = .unknownDirective key ∨
        files.isFile key = true ∧ Source.load files key none none = .error e)
  /-- What was made sure of is found. -/
  found : ∀ loaded r', (InPlace.ensure files key).runFrom r = (.ok loaded, r') →
    ∃ d, r'.get? key = some d ∧ (InPlace.getOrRegister files key).runFrom r = (.ok d, r')
  /-- The lookup fails only where making sure fails, and with the same error. -/
  lost : ∀ e r', (InPlace.getOrRegister files key).runFrom r = (.error e, r') ↔
    (InPlace.ensure files key).runFrom r = (.error e, r')
  /-- In place the same is done as with values, and a failure keeps the registry. -/
  ensure_kept : (InPlace.ensure files key).runFrom r = kept r (Registry.ensure files key r)
  /-- So it is for the lookup as a whole. -/
  getOrRegister_kept :
    (InPlace.getOrRegister files key).runFrom r = kept r (Registry.getOrRegister files key r)

namespace Registry

open InPlace

theorem looksUp (files : Files) (key : Text) (r : Registry) : r.LooksUp files key where
  known r' := ensure_known_iff
  loaded name := by
    constructor
    · rintro ⟨r', h⟩
      obtain ⟨hc, hf, rules, hl, hn, -⟩ := ensure_loaded_iff.mp h
      exact ⟨hc, hf, rules, hl, hn⟩
    · rintro ⟨hc, hf, rules, hl, hn⟩
      exact ⟨_, ensure_loaded_iff.mpr ⟨hc, hf, rules, hl, hn, rfl⟩⟩
  registered name r' h := by
    obtain ⟨-, -, rules, hl, rfl, rfl⟩ := ensure_loaded_iff.mp h
    refine ⟨rules, hl, by simp, by simp, ?_⟩
    intro k hn hk
    simp [hn, hk]
  refused e r' := ensure_refused_iff
  found loaded r' h := by
    rw [runFrom_ensure, kept_eq_ok] at h
    obtain ⟨d, hd⟩ := exists_get?_of_ensure h
    refine ⟨d, hd, ?_⟩
    rw [runFrom_getOrRegister, getOrRegister_of_ensure h hd, kept_ok]
  lost e r' := by
    rw [runFrom_getOrRegister, runFrom_ensure, kept_eq_error, kept_eq_error,
      getOrRegister_eq_error_iff]
  ensure_kept := runFrom_ensure files key r
  getOrRegister_kept := runFrom_getOrRegister files key r

end Registry

/-! ## Resolvers -/

namespace Resolver.InPlace

/-- A call on the registry of a resolver. -/
def onRegistry {α : Type} (c : Call Registry α) : Call Resolver α :=
  ExceptT.mk fun r =>
    let (answer, registry) := c.runFrom r.registry
    (answer, { r with registry })

/-- The transformation under a name or a path. What a file that is read for it may have replaced is
dropped before the directive is looked up. -/
def resolveNamed (files : Files) (key : Text) : Call Resolver Transformation := do
  match (← get).cache.get? key with
  | some t => return t
  | none =>
    if let some name ← onRegistry (Registry.InPlace.ensure files key) then
      modify fun r => { r with cache := r.cache.erase name }
    let d ← onRegistry (Registry.InPlace.getOrRegister files key)
    let t := (← get).wrap key d
    modify fun r => { r with cache := r.cache.insert key t, next := r.next + 1 }
    return t

/-- The transformation that a reference leads to. -/
def resolve (files : Files) : Reference → Call Resolver Transformation
  | .function t => return t
  | .named key => resolveNamed files key
  | .operations ops => do
    let r ← get
    set { r with next := r.next + 1 }
    return .substitution r.next none ops r.notes

@[simp] theorem runFrom_onRegistry {α : Type} (c : Call Registry α) (r : Resolver) :
    (onRegistry c).runFrom r = ((c.runFrom r.registry).1,
      { r with registry := (c.runFrom r.registry).2 }) := rfl

/-- What is made of a directive hangs on the notes and the next number alone. -/
theorem wrap_mk (registry : Registry) (cache : Table Text Transformation) (r : Resolver)
    (key : Text) (d : Directive) :
    wrap ⟨registry, cache, r.notes, r.next⟩ key d = r.wrap key d := by
  cases d <;> rfl

theorem runFrom_resolveNamed (files : Files) (key : Text) (r : Resolver) :
    (resolveNamed files key).runFrom r = kept r (Resolver.resolveNamed files key r) := by
  unfold resolveNamed
  cases hk : r.cache.get? key with
  | some t => simp [resolveNamed_of_cached hk, hk]
  | none =>
    cases he : Registry.ensure files key r.registry with
    | error e =>
      simp [resolveNamed_of_ensure_error hk he, hk, Registry.InPlace.runFrom_ensure, he]
    | ok p =>
      obtain ⟨loaded, registry⟩ := p
      obtain ⟨d, hd⟩ := Registry.exists_get?_of_ensure he
      -- The registry is changed by now, so that the second lookup must not fail.
      have hget : Registry.getOrRegister files key registry = .ok (d, registry) :=
        Registry.getOrRegister_of_get? hd
      rw [resolveNamed_of_ensure hk he hd]
      cases loaded with
      | none =>
        simp [hk, Registry.InPlace.runFrom_ensure, he, Registry.InPlace.runFrom_getOrRegister,
          hget, keep, wrap_mk]
      | some name =>
        simp [hk, Registry.InPlace.runFrom_ensure, he, Registry.InPlace.runFrom_getOrRegister,
          hget, keep, wrap_mk]

/-- **Resolution in place keeps the resolver if it fails**, and else does what is done with
values. -/
theorem runFrom_resolve (files : Files) (reference : Reference) (r : Resolver) :
    (resolve files reference).runFrom r = kept r (r.resolve files reference) := by
  cases reference with
  | named key => exact runFrom_resolveNamed files key r
  | operations ops => rfl
  | function t => rfl

end Resolver.InPlace

namespace Resolver

variable {files : Files} {key : Text} {r : Resolver} {e : Error}

/-- A name that stands is resolved whatever files there are. -/
theorem resolveNamed_of_get? {d : Directive} (files : Files) (hk : r.cache.get? key = none)
    (hd : r.registry.get? key = some d) :
    Resolver.resolveNamed files key r = .ok (r.wrap key d, { r with
      cache := r.keep none key (r.wrap key d)
      next := r.next + 1 }) :=
  resolveNamed_of_ensure hk (Registry.ensure_of_contains (Table.contains_of_get? hd)) hd

/-- What is kept of a name needs no registry, but the name stands there all the same. -/
theorem Coherent.contains_of_cached {t : Transformation} (h : r.Coherent)
    (hk : r.cache.get? key = some t) : r.registry.contains key = true := by
  obtain ⟨d, hd, -⟩ := (h key t hk).exists_apply
  exact Table.contains_of_get? hd

/-- A name is not resolved exactly if its registry cannot make sure of it. -/
theorem Coherent.resolveNamed_eq_error_iff (h : r.Coherent) :
    Resolver.resolveNamed files key r = .error e ↔
      Registry.ensure files key r.registry = .error e := by
  cases hk : r.cache.get? key with
  | some t =>
    simp [resolveNamed_of_cached hk, Registry.ensure_of_contains (h.contains_of_cached hk)]
  | none =>
    cases he : Registry.ensure files key r.registry with
    | error e' => simp [resolveNamed_of_ensure_error hk he]
    | ok p =>
      obtain ⟨loaded, registry⟩ := p
      obtain ⟨d, hd⟩ := Registry.exists_get?_of_ensure he
      simp [resolveNamed_of_ensure hk he hd]

/-- What lookups of a key in a resolver do, in place. -/
structure LooksUp (files : Files) (key : Text) (r : Resolver) : Prop where
  /-- The key is not resolved exactly if its registry cannot make sure of it, and the error is the
  same. -/
  fails_iff : ∀ e, (∃ r', (InPlace.resolve files (.named key)).runFrom r = (.error e, r')) ↔
    ∃ registry, (Registry.InPlace.ensure files key).runFrom r.registry = (.error e, registry)
  /-- After a failure the resolver is as before, its registry and all that it keeps. -/
  unchanged : ∀ e r', (InPlace.resolve files (.named key)).runFrom r = (.error e, r') → r' = r
  /-- In place the same is done as with values. -/
  resolve_kept : (InPlace.resolve files (.named key)).runFrom r =
    kept r (r.resolve files (.named key))

theorem Coherent.looksUp (h : r.Coherent) (files : Files) (key : Text) :
    r.LooksUp files key where
  fails_iff e := by
    simp only [InPlace.runFrom_resolve, Registry.InPlace.runFrom_ensure, kept_eq_error]
    constructor
    · rintro ⟨r', hr, -⟩
      exact ⟨r.registry, h.resolveNamed_eq_error_iff.mp hr, rfl⟩
    · rintro ⟨registry, hr, -⟩
      exact ⟨r, h.resolveNamed_eq_error_iff.mpr hr, rfl⟩
  unchanged e r' hr := by
    rw [InPlace.runFrom_resolve, kept_eq_error] at hr
    exact hr.2
  resolve_kept := InPlace.runFrom_resolve files (.named key) r

/-- **Lookups are atomic and exact.** In every registry, a key is left alone if it stands, and else
the file at the key is loaded and registered under its name and under the key, and nothing else is
touched; if there is no such file, or if it does not load, then nothing changes. In every resolver
that acts lead to, a name is resolved unless its registry cannot make sure of it, and a failure
leaves registry and kept transformations as they were. All this holds although the calls change
their state in place, one entry after another. -/
theorem lookup_atomic (files : Files) (key : Text) :
    (∀ registry : Registry, registry.LooksUp files key) ∧
      ∀ r : Resolver, r.Reached → r.LooksUp files key :=
  ⟨fun registry => registry.looksUp files key, fun _ hr => hr.coherent.looksUp files key⟩

/-- A directory with a file that has no rules and gives its directive the name `k`. -/
def oneFile : Files :=
  ((Files.mk Table.empty []).set [['d']] .directory).set [['d'], ['k']] (.file .empty)

theorem isFile_oneFile : oneFile.isFile ['d', '/', 'k'] = true := by cbv

theorem load_oneFile : Source.load oneFile ['d', '/', 'k'] none none = .ok ⟨['k'], []⟩ := by cbv

/-- A resolver that has resolved a name under which a rule was registered. -/
def oneRule : Resolver :=
  ((ofRegistry Table.empty false 0).run [.register ['k'] (.operations [literalRule ['a'] ['b']]),
    .resolve oneFile (.named ['k'])]).2

/-- A file that is read for its path takes the place of the rule that stood under its name. A name
that leads to no file is refused, and the resolver stays as it is. With values the same is done. -/
theorem lookup_oneFile :
    oneRule.Reached ∧ (oneRule.cache.get? ['k']).isSome = true ∧
      (∃ registry, (Registry.InPlace.ensure oneFile ['d', '/', 'k']).runFrom oneRule.registry =
          (.ok (some ['k']), registry) ∧
        registry.get? ['k'] = some (.operations []) ∧
        registry.get? ['d', '/', 'k'] = some (.operations []) ∧
        Registry.ensure oneFile ['d', '/', 'k'] oneRule.registry = .ok (some ['k'], registry) ∧
        Registry.getOrRegister oneFile ['d', '/', 'k'] oneRule.registry =
          .ok (.operations [], registry)) ∧
      (InPlace.resolve oneFile (.named ['n'])).runFrom oneRule =
        (.error (.unknownDirective ['n']), oneRule) ∧
      oneRule.resolve oneFile (.named ['n']) = .error (.unknownDirective ['n']) := by
  have hreached : oneRule.Reached := (Reached.new Table.empty false 0).run _
  refine ⟨hreached, rfl, ?_, ?_⟩
  · have hlook := (lookup_atomic oneFile ['d', '/', 'k']).1 oneRule.registry
    have hnew : oneRule.registry.contains ['d', '/', 'k'] = false := rfl
    obtain ⟨registry, hensure⟩ :=
      (hlook.loaded ['k']).mpr ⟨hnew, isFile_oneFile, _, load_oneFile, rfl⟩
    obtain ⟨rules, hload, hname, hpath, -⟩ := hlook.registered ['k'] registry hensure
    obtain rfl : rules = ⟨['k'], []⟩ := Except.ok.inj (hload.symm.trans load_oneFile)
    have hvalue := kept_eq_ok.mp (hlook.ensure_kept.symm.trans hensure)
    obtain ⟨d, hd, hget⟩ := hlook.found _ _ hensure
    obtain rfl : d = .operations [] := Option.some.inj (hd.symm.trans hpath)
    exact ⟨registry, hensure, hname, hpath, hvalue,
      kept_eq_ok.mp (hlook.getOrRegister_kept.symm.trans hget)⟩
  · have hlook := (lookup_atomic oneFile ['n']).2 oneRule hreached
    have hnew : oneRule.registry.contains ['n'] = false := rfl
    have hfile : oneFile.isFile ['n'] = false := by cbv
    have hrefused :=
      (((lookup_atomic oneFile ['n']).1 oneRule.registry).refused (.unknownDirective ['n'])
        oneRule.registry).mpr ⟨hnew, rfl, .inl ⟨hfile, rfl⟩⟩
    obtain ⟨r', hresolve⟩ := (hlook.fails_iff _).mpr ⟨_, hrefused⟩
    obtain rfl := hlook.unchanged _ r' hresolve
    exact ⟨hresolve, (kept_eq_error.mp (hlook.resolve_kept.symm.trans hresolve)).1⟩

end Resolver

end Lector
