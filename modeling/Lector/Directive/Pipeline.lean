import Lector.Directive.Resolver

/-!
# Pipelines

A pipeline applies transformations one after another. A stage that fails ends it, and the error
names the stage. A pipeline transforms texts itself, so that pipelines nest; an error that names a
stage of an inner pipeline is passed on as it is.

## Main definitions

* `Stage`, `Pipeline` - transformations with their labels, in order.
* `Pipeline.run` - what a pipeline makes of a text.
* `Pipeline.build` - the pipeline of the transformations that references lead to.

## Main results

* `Pipeline.run_append` - a pipeline in two parts runs one part after the other.
-/

namespace Lector

/-- A transformation with its label. -/
structure Stage where
  /-- What errors call the stage. -/
  label : Text
  transformation : Transformation

/-- Stages, in order. -/
abbrev Pipeline := List Stage

/-- The error of a stage: it names the stage, unless it names an inner stage already. -/
def Stage.blame (label : Text) (e : Error) : Error := if e.isStage then e else .stage label e

def Stage.run (s : Stage) (t : Text) : Except Error Text :=
  (s.transformation.apply t).mapError (Stage.blame s.label)

namespace Pipeline

def run (p : Pipeline) (t : Text) : Except Error Text := p.foldlM (fun t s => s.run t) t

def labels (p : Pipeline) : List Text := p.map Stage.label

/-- A pipeline as a transformation. -/
def toTransformation (number : Nat) (p : Pipeline) : Transformation := .function number p.run

/-- The pipeline of the transformations that references lead to. They are resolved in order, and
what was resolved before one that fails stays so. -/
def build (files : Files) : List Reference → Resolver → Except Error Pipeline × Resolver
  | [], r => (.ok [], r)
  | reference :: references, r =>
    match r.resolve files reference with
    | .error e => (.error e, r)
    | .ok (transformation, r) =>
      match build files references r with
      | (.error e, r) => (.error e, r)
      | (.ok p, r) => (.ok (⟨reference.label, transformation⟩ :: p), r)

@[simp] theorem run_nil (t : Text) : run [] t = .ok t := rfl

theorem run_cons (s : Stage) (p : Pipeline) (t : Text) :
    run (s :: p) t = (s.run t).bind (run p) := rfl

theorem run_append (p q : Pipeline) (t : Text) :
    run (p ++ q) t = (run p t).bind (run q) := by
  simp only [run, List.foldlM_append]
  rfl

end Pipeline

end Lector
