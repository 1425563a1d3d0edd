import Lector.Proofs.Directive.Lookup

/-!
# The same transformation again

Transformations have an identity: two substitutions by the same rules need not be the same. A
resolver gives the same transformation for a name again and again, until a directive is installed
under the name: by a registration, or by a rule file that is read for the first time, under whatever
path, and whose directive has that name. From then on it gives a function that was installed, or a
substitution by the rules that were installed, which is none that was there before.

## Main definitions

* `Transformation.Before`: a transformation is there before a number is given out
* `Resolver.installs`, `Resolver.installed`: what an act installs under a key, and what acts
  installed there last
* `Resolver.Arises`: resolvers that acts lead to which hand in what is there
* `Resolver.Tracks`: what there is of a key since it was resolved

## Main results

* `Resolver.Tracks.step`, `Resolver.Tracks.run`: acts keep track of a key
* `Resolver.Arises.numbered`: whatever a resolver has was there before its next number
* `Resolver.resolve_identity`: identity of transformations along runs
-/

namespace Lector

open Rule (Operation applyAll)

/-! ## Transformations that are there -/

namespace Transformation

/-- A transformation is there before a number is given out. Numbers are given to substitutions, in
ascending order. -/
def Before (n : Nat) : Transformation → Prop
  | .substitution number _ _ _ => number < n
  | .function _ _ => True

theorem Before.mono {t : Transformation} {m n : Nat} (h : t.Before m) (hmn : m ≤ n) :
    t.Before n := by
  cases t with
  | function number run => trivial
  | substitution number name ops notes => exact Nat.lt_of_lt_of_le h hmn

@[simp] theorem same_self (t : Transformation) : t.same t = true := by
  cases t <;> simp [same]

/-- A substitution is none of those that were there before its number was given out. -/
theorem Before.same_substitution {t : Transformation} {n number : Nat} (h : t.Before n)
    (hn : n ≤ number) (name : Option Text) (ops : List Operation) (notes : Bool) :
    t.same (.substitution number name ops notes) = false := by
  cases t with
  | function m run => rfl
  | substitution m name' ops' notes' =>
    have hm : m < number := Nat.lt_of_lt_of_le h hn
    simp [same, Nat.ne_of_lt hm]

end Transformation

/-- A transformation comes of a directive under a key, and is numbered from a number on: it is the
function that the directive is, or it is a substitution by its rules. -/
def Directive.Gives (d : Directive) (key : Text) (n : Nat) (t : Transformation) : Prop :=
  match d with
  | .function f => t = f
  | .operations ops => ∃ number notes, n ≤ number ∧ t = .substitution number (some key) ops notes

/-- Whatever transformation an act hands in is there before a number is given out. -/
def Act.HandsIn (n : Nat) : Act → Prop
  | .register _ (.function f) => f.Before n
  | .register _ (.operations _) | .resolve _ _ | .note _ => True

namespace Resolver

/-! ## What acts install -/

/-- What an act installs under a key: the directive that is registered there, or the rules of a file
that is read for the first time and whose directive has the key for its name. -/
def installs (r : Resolver) (key : Text) : Act → Option Directive
  | .register k d => if k = key then some d else none
  | .resolve files (.named path) =>
    if r.registry.contains path = false ∧ files.isFile path = true then
      match Source.load files path none none with
      | .ok rules => if rules.name = key then some (.operations rules.operations) else none
      | .error _ => none
    else none
  | .resolve _ (.operations _) | .resolve _ (.function _) | .note _ => none

/-- What acts installed last under a key, if they installed anything there. -/
def installed (r : Resolver) (key : Text) : List Act → Option Directive
  | [] => none
  | act :: acts => ((r.step act).2.installed key acts).or (r.installs key act)

variable {r r' : Resolver} {files : Files} {key path : Text} {t : Transformation} {n : Nat}
  {d : Directive} {o : Option Directive} {e : Error}

theorem installs_of_contains (h : r.registry.contains path = true) :
    r.installs key (.resolve files (.named path)) = none := by
  simp [installs, h]

theorem installs_of_ensure_error (h : Registry.ensure files path r.registry = .error e) :
    r.installs key (.resolve files (.named path)) = none := by
  rcases Registry.ensure_cases files path r.registry with
    ⟨hc, -⟩ | ⟨-, -, rules, -, he⟩ | ⟨-, -, e', hl, -⟩ | ⟨-, hf, -⟩
  · exact installs_of_contains hc
  · cases he.symm.trans h
  · simp [installs, hl]
  · simp [installs, hf]

/-- A file installs something under a key if it was loaded with the key for its name. -/
theorem installs_of_ensure {loaded : Option Text} {registry : Registry}
    (h : Registry.ensure files path r.registry = .ok (loaded, registry)) :
    r.installs key (.resolve files (.named path)) =
      if loaded = some key then registry.get? key else none := by
  rcases Registry.ensure_cases files path r.registry with
    ⟨hc, he⟩ | ⟨hc, hf, rules, hl, he⟩ | ⟨-, -, e, -, he⟩ | ⟨-, -, he⟩
  · cases he.symm.trans h
    simp [installs_of_contains hc]
  · cases he.symm.trans h
    by_cases hn : rules.name = key
    · simp [installs, hc, hf, hl, hn]
    · simp [installs, hl, hn]
  · cases he.symm.trans h
  · cases he.symm.trans h

/-- What was loaded stands under its name. -/
theorem exists_get?_of_loaded {registry registry' : Registry}
    (h : Registry.ensure files path registry = .ok (some key, registry')) :
    ∃ d, registry'.get? key = some d := by
  rcases Registry.ensure_eq_ok h with ⟨-, hl, -⟩ | ⟨rules, -, hl, rfl⟩
  · cases hl
  · cases hl
    exact ⟨.operations rules.operations, by simp⟩

/-! ## Keeping track of a key -/

/-- What there is of a key once a directive was installed there: it stands, and what is kept of the
key, if anything, comes of it and is numbered from a number on. -/
structure Renewed (r : Resolver) (key : Text) (n : Nat) (d : Directive) : Prop where
  stands : r.registry.get? key = some d
  kept : ∀ t, r.cache.get? key = some t → d.Gives key n t

/-- What there is of a key since it was resolved: the transformation that it was resolved to is
kept, or a directive was installed under the key. -/
def Tracks (r : Resolver) (key : Text) (t : Transformation) (n : Nat) : Option Directive → Prop
  | none => r.cache.get? key = some t
  | some d => r.Renewed key n d

/-- Only the entries under the key matter. -/
theorem Tracks.congr (h : r.Tracks key t n o)
    (hr : r'.registry.get? key = r.registry.get? key)
    (hc : r'.cache.get? key = r.cache.get? key) : r'.Tracks key t n o := by
  cases o with
  | none => exact hc.trans h
  | some d => exact ⟨hr.trans h.stands, fun u hu => h.kept u (hc ▸ hu)⟩

theorem gives_wrap (hn : n ≤ r.next) (key : Text) (d : Directive) :
    d.Gives key n (r.wrap key d) := by
  cases d with
  | function f => rfl
  | operations ops => exact ⟨r.next, r.notes, hn, rfl⟩

theorem get?_keep_of_ne {loaded : Option Text} {k : Text} (hk : k ≠ key)
    (hl : loaded ≠ some k) : (r.keep loaded key t).get? k = r.cache.get? k := by
  unfold keep
  cases loaded with
  | none => simp [hk]
  | some name =>
    have hn : k ≠ name := fun h => hl (h ▸ rfl)
    simp [hk, hn]

/-- A resolved name keeps track of a key. -/
theorem Tracks.resolveNamed {u : Transformation} (hc : r.Coherent) (hn : n ≤ r.next)
    (h : r.Tracks key t n o) (hr : Resolver.resolveNamed files path r = .ok (u, r')) :
    r'.Tracks key t n ((r.installs key (.resolve files (.named path))).or o) := by
  rcases resolveNamed_eq_ok hr with ⟨hp, rfl⟩ | ⟨loaded, registry, d, hp, he, hd, rfl, rfl⟩
  · rw [installs_of_contains (hc.contains_of_cached hp)]
    exact h
  rw [installs_of_ensure he]
  by_cases hl : loaded = some key
  · -- The file that was read has the key for its name: its rules stand there now, and what was kept
    -- of the key is dropped, unless the key is the path and has just been made anew.
    obtain ⟨d', hd'⟩ := exists_get?_of_loaded (hl ▸ he)
    rw [if_pos hl, hd', Option.some_or]
    refine ⟨hd', ?_⟩
    intro v hv
    rcases get?_keep hv with ⟨rfl, rfl⟩ | ⟨-, hne, -⟩
    · obtain rfl : d = d' := Option.some.inj (hd.symm.trans hd')
      exact gives_wrap hn key d
    · exact absurd hl hne
  rw [if_neg hl, Option.none_or]
  by_cases hk : key = path
  · subst hk
    cases o with
    | none => exact absurd (hp.symm.trans h) (by simp)
    | some d' =>
      -- The key stands, so that no file is read for it, and a new transformation comes of what
      -- was installed.
      rw [Registry.ensure_of_contains (Table.contains_of_get? h.stands)] at he
      cases he
      obtain rfl : d = d' := Option.some.inj (hd.symm.trans h.stands)
      refine ⟨hd, ?_⟩
      intro v hv
      rcases get?_keep hv with ⟨-, rfl⟩ | ⟨hne, -, -⟩
      · exact gives_wrap hn key d
      · exact absurd rfl hne
  · exact h.congr (get?_of_ensure he hk hl) (get?_keep_of_ne hk hl)

/-- **An act keeps track of a key.** What it installs there takes the place of what was installed
before. -/
theorem Tracks.step (hc : r.Coherent) (hn : n ≤ r.next) (h : r.Tracks key t n o) (act : Act) :
    (r.step act).2.Tracks key t n ((r.installs key act).or o) := by
  cases act with
  | register k d =>
    by_cases hk : k = key
    · subst hk
      simp only [installs, if_true, Option.some_or]
      refine ⟨by simp [Resolver.step, Resolver.register], ?_⟩
      intro u hu
      simp [Resolver.step, Resolver.register] at hu
    · have hk' : key ≠ k := fun he => hk he.symm
      simp only [installs, if_neg hk, Option.none_or]
      refine h.congr ?_ ?_
      · simp [Resolver.step, Resolver.register, hk']
      · simp [Resolver.step, Resolver.register, hk']
  | note on => exact h.congr rfl rfl
  | resolve files reference =>
    cases reference with
    | operations ops => exact h.congr rfl rfl
    | function f => exact h
    | named path =>
      simp only [Resolver.step, Resolver.resolve]
      cases hr : Resolver.resolveNamed files path r with
      | error e =>
        rw [installs_of_ensure_error (hc.resolveNamed_eq_error_iff.mp hr)]
        exact h
      | ok p =>
        obtain ⟨u, r'⟩ := p
        exact h.resolveNamed hc hn hr

/-- Numbers are given out in ascending order. -/
theorem next_le_step (r : Resolver) (act : Act) : r.next ≤ (r.step act).2.next := by
  rcases step_cases r act with ⟨k, d, -, hr⟩ | ⟨files, path, u, hr⟩ | ⟨-, -, hn⟩
  · rw [hr]
    exact Nat.le_refl _
  · rcases resolveNamed_eq_ok hr with ⟨-, hr⟩ | ⟨loaded, registry, d, -, -, -, -, hr⟩
    · rw [hr]
    · rw [hr]
      exact Nat.le_succ _
  · exact hn

theorem next_le_run (r : Resolver) (acts : List Act) : r.next ≤ (r.run acts).2.next := by
  induction acts generalizing r with
  | nil => exact Nat.le_refl _
  | cons act acts ih => exact Nat.le_trans (r.next_le_step act) (ih _)

/-- **Acts keep track of a key.** -/
theorem Tracks.run (hc : r.Coherent) (hn : n ≤ r.next) (h : r.Tracks key t n o)
    (acts : List Act) : (r.run acts).2.Tracks key t n ((r.installed key acts).or o) := by
  induction acts generalizing r o with
  | nil => exact h
  | cons act acts ih =>
    have hstep := ih (hc.step act) (Nat.le_trans hn (r.next_le_step act)) (h.step hc hn act)
    rw [← Option.or_assoc] at hstep
    exact hstep

/-- What is kept of a key after it was resolved is what it was resolved to. -/
theorem cached_of_resolveNamed (hr : Resolver.resolveNamed files key r = .ok (t, r')) :
    r'.cache.get? key = some t := by
  rcases resolveNamed_eq_ok hr with ⟨hk, rfl⟩ | ⟨loaded, registry, d, -, -, -, -, rfl⟩
  · exact hk
  · simp [keep]

/-- A key under which a directive was installed is resolved to what comes of the directive. -/
theorem Renewed.exists_resolveNamed (h : r.Renewed key n d) (hn : n ≤ r.next) (files : Files) :
    ∃ u r', Resolver.resolveNamed files key r = .ok (u, r') ∧ d.Gives key n u := by
  cases hk : r.cache.get? key with
  | some u => exact ⟨u, r, resolveNamed_of_cached hk, h.kept u hk⟩
  | none => exact ⟨_, _, resolveNamed_of_get? files hk h.stands, gives_wrap hn key d⟩

/-! ## Transformations that are handed in -/

/-- The resolvers that acts lead to when every transformation that is handed in is there by then,
in the first registry as well as in a registration. -/
inductive Arises : Resolver → Prop
  | new (registry : Registry) (notes : Bool) (next : Nat)
      (h : ∀ key f, registry.get? key = some (.function f) → f.Before next) :
      Arises (ofRegistry registry notes next)
  | step {r : Resolver} (act : Act) (h : Arises r) (ha : act.HandsIn r.next) :
      Arises (r.step act).2

/-- Whatever a resolver has was there before its next number. -/
structure Numbered (r : Resolver) : Prop where
  registered : ∀ key f, r.registry.get? key = some (.function f) → f.Before r.next
  kept : ∀ key t, r.cache.get? key = some t → t.Before r.next

theorem Arises.reached (h : r.Arises) : r.Reached := by
  induction h with
  | new registry notes next _ => exact .new registry notes next
  | step act _ _ ih => exact .step act ih

/-- Files that are read bring no functions. -/
theorem function_of_ensure {loaded : Option Text} {registry registry' : Registry} {k : Text}
    {f : Transformation} (h : Registry.ensure files key registry = .ok (loaded, registry'))
    (hf : registry'.get? k = some (.function f)) : registry.get? k = some (.function f) := by
  rcases Registry.ensure_eq_ok h with ⟨-, -, rfl⟩ | ⟨rules, -, -, rfl⟩
  · exact hf
  · rw [Registry.get?_addFile] at hf
    split at hf
    · cases hf
    · exact hf

theorem before_wrap (h : ∀ f, d = .function f → f.Before r.next) (key : Text) :
    (r.wrap key d).Before (r.next + 1) := by
  cases d with
  | function f => exact (h f rfl).mono (Nat.le_succ _)
  | operations ops => exact Nat.lt_succ_self _

theorem Numbered.mono (h : r.Numbered) (hr : r'.registry = r.registry)
    (hc : r'.cache = r.cache) (hn : r.next ≤ r'.next) : r'.Numbered := by
  refine ⟨?_, ?_⟩
  · intro k f hf
    exact (h.registered k f (hr ▸ hf)).mono hn
  · intro k u hu
    exact (h.kept k u (hc ▸ hu)).mono hn

theorem Numbered.resolveNamed (h : r.Numbered)
    (hr : Resolver.resolveNamed files key r = .ok (t, r')) : r'.Numbered := by
  rcases resolveNamed_eq_ok hr with ⟨-, rfl⟩ | ⟨loaded, registry, d, -, he, hd, rfl, rfl⟩
  · exact h
  have hregistry : ∀ k f, registry.get? k = some (.function f) → f.Before r.next :=
    fun k f hf => h.registered k f (function_of_ensure he hf)
  refine ⟨fun k f hf => (hregistry k f hf).mono (Nat.le_succ _), ?_⟩
  intro k u hu
  rcases get?_keep hu with ⟨rfl, rfl⟩ | ⟨-, -, hu⟩
  · exact before_wrap (fun f hf => hregistry k f (hf ▸ hd)) k
  · exact (h.kept k u hu).mono (Nat.le_succ _)

theorem Numbered.register (h : r.Numbered) (hd : ∀ f, d = .function f → f.Before r.next)
    (key : Text) : (r.register key d).Numbered := by
  refine ⟨?_, ?_⟩
  · intro k f hf
    simp only [Resolver.register, Table.get?_insert] at hf
    split at hf
    · exact hd f (Option.some.inj hf)
    · exact h.registered k f hf
  · intro k t ht
    simp only [Resolver.register, Table.get?_erase] at ht
    split at ht
    · cases ht
    · exact h.kept k t ht

theorem Numbered.step (h : r.Numbered) {act : Act} (ha : act.HandsIn r.next) :
    (r.step act).2.Numbered := by
  rcases step_cases r act with ⟨k, d, rfl, hr⟩ | ⟨files, path, u, hr⟩ | ⟨hr, hc, hn⟩
  · rw [hr]
    refine h.register ?_ k
    rintro f rfl
    exact ha
  · exact h.resolveNamed hr
  · exact h.mono hr hc hn

theorem Arises.numbered (h : r.Arises) : r.Numbered := by
  induction h with
  | new registry notes next h =>
    refine ⟨h, ?_⟩
    intro key t ht
    simp [ofRegistry] at ht
  | step act _ ha ih => exact ih.step ha

/-! ## Identity -/

/-- **Identity of transformations along runs.** A name that was resolved once is resolved again
whatever was done in between. If nothing was installed under it, it is the same transformation; if
rules were installed last, it is another one, which applies these rules; if a function was installed
last, it is that function. A reference that is a function leads to that function, and one that is a
list of rules leaves registry and kept transformations alone. -/
theorem resolve_identity {r : Resolver} (hr : r.Arises) :
    (∀ files key t r₁, r.resolve files (.named key) = .ok (t, r₁) → ∀ acts files',
      ∃ t' r', (r₁.run acts).2.resolve files' (.named key) = .ok (t', r') ∧
        match r₁.installed key acts with
        | none => t.same t' = true ∧ t' = t
        | some (.operations ops) => t.same t' = false ∧ t'.apply = applyAll ops
        | some (.function f) => t' = f) ∧
    (∀ files f, r.resolve files (.function f) = .ok (f, r)) ∧
    ∀ files ops, ∃ t r', r.resolve files (.operations ops) = .ok (t, r') ∧
      r'.registry = r.registry ∧ r'.cache = r.cache := by
  refine ⟨?_, fun files f => rfl, fun files ops => ⟨_, _, rfl, rfl, rfl⟩⟩
  intro files key t r₁ h acts files'
  have hcoherent : r₁.Coherent := hr.reached.coherent.resolveNamed h
  have hkept : r₁.cache.get? key = some t := cached_of_resolveNamed h
  have hbefore : t.Before r₁.next := (hr.numbered.resolveNamed h).kept key t hkept
  have htracks : r₁.Tracks key t r₁.next none := hkept
  have hrun := htracks.run hcoherent (Nat.le_refl _) acts
  rw [Option.or_none] at hrun
  cases ho : r₁.installed key acts with
  | none =>
    rw [ho] at hrun
    exact ⟨t, _, resolveNamed_of_cached hrun, t.same_self, rfl⟩
  | some d =>
    rw [ho] at hrun
    have hrenewed : (r₁.run acts).2.Renewed key r₁.next d := hrun
    obtain ⟨t', r', ht', hgives⟩ := hrenewed.exists_resolveNamed (r₁.next_le_run acts) files'
    refine ⟨t', r', ht', ?_⟩
    cases d with
    | function f => exact hgives
    | operations ops =>
      obtain ⟨number, notes, hn, rfl⟩ := hgives
      exact ⟨hbefore.same_substitution hn (some key) ops notes, rfl⟩

/-- A name is resolved to another transformation once a file with that name was read for its path:
the rule that was there before is applied no more. -/
theorem resolve_identity_oneFile :
    oneRule.Arises ∧ ∃ t r₁ t' r',
      oneRule.resolve oneFile (.named ['k']) = .ok (t, r₁) ∧ t.apply ['a'] = .ok ['b'] ∧
      (r₁.run [.resolve oneFile (.named ['d', '/', 'k'])]).2.resolve oneFile (.named ['k']) =
        .ok (t', r') ∧
      t.same t' = false ∧ t'.apply ['a'] = .ok ['a'] := by
  have hempty : (ofRegistry Table.empty false 0).Arises :=
    .new Table.empty false 0 (by simp)
  have hregistered := hempty.step (.register ['k'] (.operations [literalRule ['a'] ['b']])) trivial
  have harises : oneRule.Arises := hregistered.step (.resolve oneFile (.named ['k'])) trivial
  have hnew : oneRule.registry.contains ['d', '/', 'k'] = false := rfl
  have hkept : oneRule.cache.get? ['k'] =
      some (.substitution 0 (some ['k']) [literalRule ['a'] ['b']] false) := rfl
  have hfirst : Resolver.resolveNamed oneFile ['k'] oneRule = .ok (_, oneRule) :=
    resolveNamed_of_cached hkept
  have hinstalled : oneRule.installed ['k'] [.resolve oneFile (.named ['d', '/', 'k'])] =
      some (.operations []) := by
    simp [installed, installs, hnew, isFile_oneFile, load_oneFile]
  obtain ⟨t', r', hsecond, hidentity⟩ :=
    (resolve_identity harises).1 oneFile ['k'] _ oneRule hfirst
      [.resolve oneFile (.named ['d', '/', 'k'])] oneFile
  rw [hinstalled] at hidentity
  obtain ⟨hother, happly⟩ := hidentity
  refine ⟨harises, _, oneRule, t', r', hfirst, ?_, hsecond, hother, ?_⟩
  · cbv
  · rw [happly]
    rfl

end Resolver

end Lector
