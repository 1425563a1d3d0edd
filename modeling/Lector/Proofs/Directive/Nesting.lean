import Lector.Directive.Pipeline

/-!
# Nested pipelines

A pipeline is a transformation, so that pipelines stand in pipelines, to any depth. Running them is
running the one flat pipeline of the stages at the leaves, each with its own label: an error is
blamed on the leaf where it arose, once, and no pipeline around it adds to the blame.

## Main definitions

* `Nested`: a stage that is a leaf or a pipeline of such stages
* `Nested.stage`, `Nested.stages`: nested stages as stages
* `Nested.leaves`, `Nested.allLeaves`: the stages at the leaves, from left to right
* `Nested.record`, `Nested.recordAll`: what nested stages make of a text, with the leaves that are
  run for it

## Main results

* `Pipeline.isStage_of_run`: an error of a pipeline names a stage
* `Nested.run_stages`: nested pipelines run as their leaves do
* `Nested.run_nested_eq_flat`: the same with the errors and the leaves that are run
-/

namespace Lector

namespace Stage

variable {s : Stage} {t u : Text} {e : Error}

/-- An error that names a stage is passed on as it is. -/
theorem blame_of_isStage (label : Text) (h : e.isStage = true) : blame label e = e := by
  simp [blame, h]

theorem isStage_blame (label : Text) (e : Error) : (blame label e).isStage = true := by
  unfold blame
  split
  next h => exact h
  next => rfl

theorem run_of_apply (h : s.transformation.apply t = .ok u) : s.run t = .ok u := by
  rw [run, h]
  rfl

theorem run_of_apply_error (h : s.transformation.apply t = .error e) :
    s.run t = .error (blame s.label e) := by
  rw [run, h]
  rfl

theorem isStage_of_run (h : s.run t = .error e) : e.isStage = true := by
  cases ha : s.transformation.apply t with
  | ok u => simp [run_of_apply ha] at h
  | error e' =>
    rw [run_of_apply_error ha] at h
    cases h
    exact isStage_blame s.label e'

end Stage

namespace Pipeline

variable {p : Pipeline} {t : Text} {e : Error}

@[simp] theorem run_singleton (s : Stage) (t : Text) : run [s] t = s.run t := by
  rw [run_cons]
  cases s.run t <;> rfl

/-- **An error of a pipeline names a stage**, whatever the transformations fail with. -/
theorem isStage_of_run (h : run p t = .error e) : e.isStage = true := by
  induction p generalizing t with
  | nil => cases h
  | cons s p ih =>
    rw [run_cons] at h
    cases hs : s.run t with
    | ok u =>
      rw [hs] at h
      exact ih h
    | error e' =>
      rw [hs] at h
      cases h
      exact Stage.isStage_of_run hs

/-- A stage around a pipeline adds nothing to the blame. -/
theorem mapError_blame_run (p : Pipeline) (label t : Text) :
    (run p t).mapError (Stage.blame label) = run p t := by
  cases h : run p t with
  | ok u => rfl
  | error e =>
    have hb := Stage.blame_of_isStage label (isStage_of_run h)
    exact congrArg Except.error hb

/-- The stages that are run for a text, with what they make of it. -/
abbrev Record := List Stage × Except Error Text

/-- Goes on with what was made of a text, unless an error ended it. -/
def Record.andThen (x : Record) (f : Text → Record) : Record :=
  match x.2 with
  | .error e => (x.1, .error e)
  | .ok u => (x.1 ++ (f u).1, (f u).2)

theorem Record.andThen_assoc (x : Record) (f g : Text → Record) :
    (x.andThen f).andThen g = x.andThen fun t => (f t).andThen g := by
  obtain ⟨ran, result⟩ := x
  cases result with
  | error e => rfl
  | ok u =>
    rcases hf : f u with ⟨ran', result'⟩
    cases result' with
    | error e => simp [andThen, hf]
    | ok v => simp [andThen, hf]

/-- What a pipeline makes of a text, with the stages that are run for it. -/
def record : Pipeline → Text → Record
  | [], t => ([], .ok t)
  | s :: p, t => Record.andThen ([s], s.run t) (record p)

theorem record_singleton (s : Stage) (t : Text) : record [s] t = ([s], s.run t) := by
  simp only [record, Record.andThen]
  cases s.run t <;> rfl

theorem record_append (p q : Pipeline) (t : Text) :
    record (p ++ q) t = (record p t).andThen (record q) := by
  induction p generalizing t with
  | nil => rfl
  | cons s p ih =>
    simp only [List.cons_append, record, Record.andThen_assoc]
    congr 1
    exact funext ih

/-- Recording changes nothing. -/
theorem record_snd (p : Pipeline) (t : Text) : (record p t).2 = run p t := by
  induction p generalizing t with
  | nil => rfl
  | cons s p ih =>
    rw [run_cons]
    simp only [record, Record.andThen]
    cases s.run t with
    | error e => rfl
    | ok u => exact ih u

/-- A pipeline that does not fail runs all its stages. -/
theorem record_of_run {p : Pipeline} {t u : Text} (h : run p t = .ok u) :
    record p t = (p, .ok u) := by
  induction p generalizing t with
  | nil =>
    cases h
    rfl
  | cons s p ih =>
    rw [run_cons] at h
    cases hs : s.run t with
    | error e => simp [hs, Except.bind] at h
    | ok v =>
      rw [hs] at h
      simp [record, Record.andThen, hs, ih h]

/-- **The stage that fails is the last that is run**, and its error is the error of the pipeline. -/
theorem record_of_fail {before : Pipeline} {s : Stage} {u : Text} (after : Pipeline)
    (hb : run before t = .ok u) (hs : s.run u = .error e) :
    record (before ++ s :: after) t = (before ++ [s], .error e) := by
  rw [record_append, record_of_run hb]
  simp [record, Record.andThen, hs]

end Pipeline

/-- A stage in nested pipelines. -/
inductive Nested
  | leaf (stage : Stage)
  /-- A pipeline with a label, and the number of the transformation that it is. -/
  | pipeline (label : Text) (number : Nat) (inner : List Nested)

namespace Nested

mutual

/-- The stage that a nested stage is. -/
def stage : Nested → Stage
  | leaf s => s
  | pipeline label number inner => ⟨label, Pipeline.toTransformation number (stages inner)⟩

/-- The pipeline of nested stages. -/
def stages : List Nested → Pipeline
  | [] => []
  | n :: ns => n.stage :: stages ns

end

mutual

/-- The stages at the leaves of a nested stage. -/
def leaves : Nested → Pipeline
  | leaf s => [s]
  | pipeline _ _ inner => allLeaves inner

/-- The stages at the leaves of nested stages, from left to right. -/
def allLeaves : List Nested → Pipeline
  | [] => []
  | n :: ns => n.leaves ++ allLeaves ns

end

mutual

/-- What a nested stage makes of a text, with the leaves that are run for it. -/
def record : Nested → Text → Pipeline.Record
  | leaf s, t => ([s], s.run t)
  | pipeline label _ inner, t =>
    ((recordAll inner t).1, (recordAll inner t).2.mapError (Stage.blame label))

/-- What nested stages make of a text, with the leaves that are run for it. -/
def recordAll : List Nested → Text → Pipeline.Record
  | [], t => ([], .ok t)
  | n :: ns, t => (n.record t).andThen (recordAll ns)

end

mutual

/-- A nested stage runs as its leaves do. -/
theorem run_stage (n : Nested) (t : Text) : n.stage.run t = n.leaves.run t := by
  cases n with
  | leaf s => rw [leaves, stage, Pipeline.run_singleton]
  | pipeline label number inner =>
    -- The label of a pipeline is lost: what fails inside already names a stage.
    rw [leaves, stage, ← Pipeline.mapError_blame_run (allLeaves inner) label, ← run_stages inner]
    rfl

/-- **Nested pipelines run as their leaves do.** -/
theorem run_stages (ns : List Nested) (t : Text) :
    (stages ns).run t = (allLeaves ns).run t := by
  cases ns with
  | nil => rw [stages, allLeaves]
  | cons n ns =>
    have hns : (stages ns).run = (allLeaves ns).run := funext (run_stages ns)
    rw [stages, allLeaves, Pipeline.run_cons, Pipeline.run_append, run_stage n, hns]

end

mutual

theorem record_eq (n : Nested) (t : Text) : n.record t = n.leaves.record t := by
  cases n with
  | leaf s => rw [record, leaves, Pipeline.record_singleton]
  | pipeline label number inner =>
    rw [record, leaves, recordAll_eq inner]
    refine Prod.ext rfl ?_
    rw [Pipeline.record_snd, Pipeline.mapError_blame_run]

/-- Nested stages run the leaves that the flat pipeline of the leaves runs. -/
theorem recordAll_eq (ns : List Nested) (t : Text) : recordAll ns t = (allLeaves ns).record t := by
  cases ns with
  | nil => rw [recordAll, allLeaves, Pipeline.record]
  | cons n ns =>
    have hns : recordAll ns = (allLeaves ns).record := funext (recordAll_eq ns)
    rw [recordAll, allLeaves, Pipeline.record_append, record_eq n, hns]

end

/-- **Nested pipelines are flat ones, errors included.** They make of every text what the pipeline
of their leaves makes of it, and recording the leaves that are run changes nothing. If the leaves in
front of a leaf do not fail and it does, its error is the error of the whole, blamed on the leaf
itself unless it names a stage already, and no leaf behind it is run. -/
theorem run_nested_eq_flat (ns : List Nested) (t : Text) :
    (stages ns).run t = (allLeaves ns).run t ∧
      (recordAll ns t).2 = (stages ns).run t ∧
      ∀ before s after u e, allLeaves ns = before ++ s :: after →
        Pipeline.run before t = .ok u → s.transformation.apply u = .error e →
          (stages ns).run t = .error (if e.isStage then e else .stage s.label e) ∧
            (recordAll ns t).1 = before ++ [s] := by
  have hr : (recordAll ns t).2 = (stages ns).run t := by
    rw [recordAll_eq, Pipeline.record_snd, run_stages]
  refine ⟨run_stages ns t, hr, ?_⟩
  intro before s after u e hl hb hs
  have hrec : recordAll ns t = (before ++ [s], .error (Stage.blame s.label e)) := by
    rw [recordAll_eq, hl, Pipeline.record_of_fail after hb (Stage.run_of_apply_error hs)]
  rw [← hr, hrec]
  exact ⟨rfl, rfl⟩

/-- A leaf that leaves texts as they are. -/
def idle : Stage := ⟨['i'], .function 0 .ok⟩

/-- A leaf that refuses all texts. -/
def refusal : Stage := ⟨['r'], .function 1 fun t => .error (.unknownDirective t)⟩

/-- A refusal at depth two, behind an empty pipeline, is blamed on itself alone, and the leaf behind
it is not run. -/
theorem run_nested_refusal :
    (stages [leaf idle, pipeline ['p'] 2 [pipeline ['q'] 3 [], pipeline ['s'] 4 [leaf refusal],
        leaf idle]]).run ['t'] = .error (.stage ['r'] (.unknownDirective ['t'])) ∧
      (recordAll [leaf idle, pipeline ['p'] 2 [pipeline ['q'] 3 [],
        pipeline ['s'] 4 [leaf refusal], leaf idle]] ['t']).1 = [idle, refusal] :=
  (run_nested_eq_flat _ ['t']).2.2 [idle] refusal [idle] ['t'] _ rfl rfl rfl

end Nested

end Lector
