import Lector.Proofs.Directive.Lookup

/-!
# Files are read at the first reference

Files may change while a resolver is in use. The same acts are compared over two histories of files.
A file is looked at only where a name is resolved that does not stand at that moment: two histories
that have the same file there, or both none, lead to the same answers and to the same resolver. Since
no name is ever lost from a registry, a file that was read once does not matter for its name any
more, whether it is changed or deleted.

## Main definitions

* `Files.SameAt`: two states of the files have the same file at a path, or both none
* `Act.replay`: the same acts over another history of files
* `Resolver.SameReads`: another history has the same files wherever files are looked at

## Main results

* `Resolver.step_over`: an act looks at a file only where a name does not stand
* `Resolver.SameReads.run_replay`: the same for acts, one after another
* `Resolver.resolve_reads_once`: a rule file is read only at its first reference
-/

namespace Lector

/-! ## The same files -/

/-- Two states of the files have the same file at a path, or both have no file there: there may be
nothing, a directory, or a path that leads nowhere. -/
def Files.SameAt (files files' : Files) (path : Text) : Prop :=
  (files.isFile path = false ∧ files'.isFile path = false) ∨
    ∃ bytes, files.look path = .ok (.file bytes) ∧ files'.look path = .ok (.file bytes)

namespace Files.SameAt

variable {files files' : Files} {path : Text}

theorem refl (files : Files) (path : Text) : files.SameAt files path := by
  cases hf : files.isFile path with
  | false => exact .inl ⟨hf, hf⟩
  | true =>
    unfold isFile at hf
    split at hf
    next bytes hlook => exact .inr ⟨bytes, hlook, hlook⟩
    next => cases hf

theorem isFile_eq (h : files.SameAt files' path) : files'.isFile path = files.isFile path := by
  rcases h with ⟨h, h'⟩ | ⟨bytes, h, h'⟩
  · rw [h, h']
  · simp [isFile, h, h']

theorem readText_eq (h : files.SameAt files' path) (hf : files.isFile path = true) :
    files'.readText path = files.readText path := by
  rcases h with ⟨h, -⟩ | ⟨bytes, h, h'⟩
  · exact absurd (h.symm.trans hf) (by simp)
  · simp [readText, read, h, h']

/-- Rules are loaded from the file at the path alone. -/
theorem load_eq (h : files.SameAt files' path) (hf : files.isFile path = true)
    (tag name : Option Text) :
    Source.load files' path tag name = Source.load files path tag name := by
  simp [Source.load, h.readText_eq hf]

theorem ensure_eq (h : files.SameAt files' path) (r : Registry) :
    Registry.ensure files' path r = Registry.ensure files path r := by
  unfold Registry.ensure Registry.registerFile
  rw [h.isFile_eq]
  cases hf : files.isFile path with
  | true => rw [h.load_eq hf]
  | false => rfl

end Files.SameAt

/-- The same act while there are other files. -/
def Act.over (files : Files) : Act → Act
  | .register key d => .register key d
  | .resolve _ reference => .resolve files reference
  | .note on => .note on

/-- The same acts over another history of files, which has the files that are there at each of the
acts. -/
def Act.replay (history : Nat → Files) (acts : List Act) : List Act :=
  acts.mapIdx fun i act => act.over (history i)

theorem Act.replay_cons (history : Nat → Files) (act : Act) (acts : List Act) :
    replay history (act :: acts) =
      act.over (history 0) :: replay (fun i => history (i + 1)) acts := by
  simp [replay]

/-! ## Lookups while there are other files -/

/-- A reference that stands is made sure of without a look at the files. -/
theorem Registry.ensure_over {files files' : Files} {key : Text} {r : Registry}
    (h : r.contains key = false → files.SameAt files' key) :
    ensure files' key r = ensure files key r := by
  cases hc : r.contains key with
  | true => rw [ensure_of_contains hc, ensure_of_contains hc]
  | false => exact (h hc).ensure_eq r

/-- No key of a registry is lost. -/
theorem Registry.contains_of_ensure {files : Files} {key k : Text} {loaded : Option Text}
    {r r' : Registry} (h : ensure files key r = .ok (loaded, r')) (hk : r.contains k = true) :
    r'.contains k = true := by
  rcases ensure_eq_ok h with ⟨-, -, rfl⟩ | ⟨rules, -, -, rfl⟩
  · exact hk
  · unfold addFile
    split
    · exact Table.contains_insert hk _ _
    · exact Table.contains_insert (Table.contains_insert hk _ _) _ _

namespace Resolver

variable {files files' : Files} {key k : Text} {r r' : Resolver} {t : Transformation} {act : Act}
  {acts : List Act} {history : Nat → Files}

/-- Once the registry has made sure of a name, the rest is done without a look at the files. -/
theorem resolveNamed_congr
    (h : Registry.ensure files' key r.registry = Registry.ensure files key r.registry) :
    resolveNamed files' key r = resolveNamed files key r := by
  cases hk : r.cache.get? key with
  | some t => rw [resolveNamed_of_cached hk, resolveNamed_of_cached hk]
  | none =>
    cases he : Registry.ensure files key r.registry with
    | error e =>
      rw [resolveNamed_of_ensure_error hk he, resolveNamed_of_ensure_error hk (h.trans he)]
    | ok p =>
      obtain ⟨loaded, registry⟩ := p
      obtain ⟨d, hd⟩ := Registry.exists_get?_of_ensure he
      rw [resolveNamed_of_ensure hk he hd, resolveNamed_of_ensure hk (h.trans he) hd]

/-- **An act looks at a file only where a name does not stand**: what other files there are does not
matter. -/
theorem step_over
    (h : ∀ files key, act = .resolve files (.named key) →
      r.registry.contains key = false → files.SameAt files' key) :
    r.step (act.over files') = r.step act := by
  cases act with
  | register key d => rfl
  | note on => rfl
  | resolve files reference =>
    cases reference with
    | operations ops => rfl
    | function f => rfl
    | named key =>
      have hresolve : resolveNamed files' key r = resolveNamed files key r :=
        resolveNamed_congr (Registry.ensure_over (h files key rfl))
      simp only [Act.over, Resolver.step, Resolver.resolve, hresolve]

/-! ## Runs over two histories -/

/-- Wherever acts resolve a name that does not stand at that moment, another history has the same
file as the acts have. -/
def SameReads (r : Resolver) (history : Nat → Files) (acts : List Act) : Prop :=
  ∀ i files key, acts[i]? = some (.resolve files (.named key)) →
    (r.run (acts.take i)).2.registry.contains key = false → files.SameAt (history i) key

theorem SameReads.head (h : r.SameReads history (act :: acts)) {files : Files} {key : Text}
    (ha : act = .resolve files (.named key)) (hc : r.registry.contains key = false) :
    files.SameAt (history 0) key :=
  h 0 files key (congrArg some ha) hc

theorem SameReads.tail (h : r.SameReads history (act :: acts)) :
    (r.step act).2.SameReads (fun i => history (i + 1)) acts :=
  fun i files key ha hc => h (i + 1) files key ha hc

/-- **Acts look at files only where names do not stand**: over another history that has the same
files there, they get the same answers and come to the same resolver. -/
theorem SameReads.run_replay (h : r.SameReads history acts) :
    r.run (Act.replay history acts) = r.run acts := by
  -- The acts that are left run from the same resolver, over what is left of the history.
  induction acts generalizing r history with
  | nil => rfl
  | cons act acts ih =>
    have hstep : r.step (act.over (history 0)) = r.step act :=
      step_over fun files key ha hc => h.head ha hc
    rw [Act.replay_cons]
    simp only [Resolver.run, hstep, ih h.tail]

/-! ## After the first reference -/

theorem contains_step (h : r.registry.contains k = true) (act : Act) :
    (r.step act).2.registry.contains k = true := by
  rcases step_cases r act with ⟨key, d, -, hr⟩ | ⟨files, key, t, hr⟩ | ⟨hr, -, -⟩
  · rw [hr]
    exact Table.contains_insert h _ _
  · rcases resolveNamed_eq_ok hr with ⟨-, hr⟩ | ⟨loaded, registry, d, -, he, -, -, hr⟩
    · rwa [hr]
    · rw [hr]
      exact Registry.contains_of_ensure he h
  · rwa [hr]

/-- No name is ever lost. -/
theorem contains_run (h : r.registry.contains k = true) (acts : List Act) :
    (r.run acts).2.registry.contains k = true := by
  induction acts generalizing r with
  | nil => exact h
  | cons act acts ih => exact ih (contains_step h act)

/-- A name that was resolved stands. -/
theorem Coherent.contains_of_resolveNamed (h : r.Coherent)
    (hr : Resolver.resolveNamed files key r = .ok (t, r')) : r'.registry.contains key = true := by
  obtain ⟨d, hd, -⟩ := (h.backs_of_resolveNamed hr).exists_apply
  exact Table.contains_of_get? hd

/-- A name that stands is resolved, and to the same whatever files there are. -/
theorem exists_resolveNamed_of_contains (h : r.registry.contains key = true) :
    ∃ t r', ∀ files, Resolver.resolveNamed files key r = .ok (t, r') := by
  obtain ⟨d, hd⟩ := Option.isSome_iff_exists.mp h
  cases hk : r.cache.get? key with
  | some t => exact ⟨t, r, fun files => resolveNamed_of_cached hk⟩
  | none => exact ⟨_, _, fun files => resolveNamed_of_get? files hk hd⟩

/-- Another history may have any files at a path that stands. -/
theorem sameReads_of_contains (hstands : r.registry.contains key = true)
    (h : ∀ (i : Nat) files path, acts[i]? = some (.resolve files (.named path)) → path ≠ key →
      files.SameAt (history i) path) :
    r.SameReads history acts := by
  intro i files path ha hc
  by_cases hp : path = key
  · subst hp
    have hlater := contains_run hstands (acts.take i)
    rw [hc] at hlater
    cases hlater
  · exact h i files path ha hp

/-- **A rule file is read only at its first reference.** Let the same acts run from the same resolver
over two histories of files. If both have the same file, or both have none, wherever a name is
resolved that does not stand at that moment, then all answers are the same, and so are the resolvers
in the end, with all that is registered. So once a name has been resolved, what becomes of the file
at that path has no effect: acts are the same over histories that differ at that path only, and the
name is resolved at any later time, to the same whatever files there are then. -/
theorem resolve_reads_once :
    (∀ (r : Resolver) (history : Nat → Files) (acts : List Act), r.SameReads history acts →
      r.run (Act.replay history acts) = r.run acts) ∧
    ∀ r : Resolver, r.Reached → ∀ files key t r₁, r.resolve files (.named key) = .ok (t, r₁) →
      (∀ (history : Nat → Files) (acts : List Act),
        (∀ (i : Nat) files path, acts[i]? = some (.resolve files (.named path)) → path ≠ key →
          files.SameAt (history i) path) →
        r₁.run (Act.replay history acts) = r₁.run acts) ∧
      ∀ acts, ∃ t' r', ∀ files',
        (r₁.run acts).2.resolve files' (.named key) = .ok (t', r') := by
  refine ⟨fun r history acts h => h.run_replay, ?_⟩
  intro r hr files key t r₁ h
  have hstands : r₁.registry.contains key = true := hr.coherent.contains_of_resolveNamed h
  refine ⟨?_, ?_⟩
  · intro history acts hsame
    exact (sameReads_of_contains hstands hsame).run_replay
  · intro acts
    exact exists_resolveNamed_of_contains (contains_run hstands acts)

/-- A resolver without directives. -/
def noRules : Resolver := ofRegistry Table.empty false 0

/-- The path of a file is resolved, then a name that leads nowhere, then the path again. -/
def again : List Act :=
  [.resolve oneFile (.named ['d', '/', 'k']), .resolve oneFile (.named ['n']),
    .resolve oneFile (.named ['d', '/', 'k'])]

/-- A history in which the file is deleted after the first act. -/
def deleted : Nat → Files
  | 0 => oneFile
  | _ + 1 => ⟨Table.empty, []⟩

/-- When the file is deleted after it was read, the answers are what they are with the file, and the
path is still resolved. -/
theorem resolve_reads_once_deleted :
    noRules.run (Act.replay deleted again) = noRules.run again ∧
      ∃ t r₁, noRules.resolve oneFile (.named ['d', '/', 'k']) = .ok (t, r₁) ∧
        r₁.run (Act.replay (fun _ => deleted 1) again) = r₁.run again ∧
        ∃ t' r', (r₁.run again).2.resolve (deleted 1) (.named ['d', '/', 'k']) = .ok (t', r') := by
  have hnew : noRules.registry.contains ['d', '/', 'k'] = false := rfl
  have hensure : Registry.ensure oneFile ['d', '/', 'k'] noRules.registry =
      .ok (some ['k'], Registry.addFile ['d', '/', 'k'] ⟨['k'], []⟩ noRules.registry) := by
    simp [Registry.ensure, Registry.registerFile, hnew, isFile_oneFile, load_oneFile]
  have hreached : noRules.Reached := .new Table.empty false 0
  obtain ⟨t, r₁, hfirst⟩ : ∃ t r₁, noRules.resolve oneFile (.named ['d', '/', 'k']) = .ok (t, r₁) :=
    ⟨_, _, resolveNamed_of_ensure rfl hensure (Registry.get?_addFile _ _ _ _)⟩
  have hstands : r₁.registry.contains ['d', '/', 'k'] = true :=
    hreached.coherent.contains_of_resolveNamed hfirst
  have hnowhere : oneFile.SameAt (deleted 1) ['n'] := .inl ⟨by cbv, by cbv⟩
  have hreads : noRules.SameReads deleted again := by
    intro i files key ha hc
    rcases i with _ | _ | _ | i
    · cases ha
      exact .refl oneFile _
    · cases ha
      exact hnowhere
    · cases ha
      have hstep : (noRules.step (.resolve oneFile (.named ['d', '/', 'k']))).2 = r₁ := by
        simp [Resolver.step, hfirst]
      have hlater := contains_run (hstep.symm ▸ hstands) [.resolve oneFile (.named ['n'])]
      exact absurd (hc.symm.trans hlater) (by simp)
    · cases ha
  obtain ⟨hsame, hafter⟩ := resolve_reads_once
  obtain ⟨hrun, hlast⟩ := hafter noRules hreached oneFile _ t r₁ hfirst
  obtain ⟨t', r', ht'⟩ := hlast again
  refine ⟨hsame noRules deleted again hreads, t, r₁, hfirst, hrun _ again ?_, t', r', ht' _⟩
  intro i files path ha hp
  rcases i with _ | _ | _ | i
  · cases ha
    exact absurd rfl hp
  · cases ha
    exact hnowhere
  · cases ha
    exact absurd rfl hp
  · cases ha

end Resolver

end Lector
