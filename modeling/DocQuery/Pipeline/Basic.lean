import DocQuery.Pipeline.Stage

/-! Pipelines: one source, then steps without faults. A list of stages is read as a pipeline, or the
first stage that breaks a rule is named. -/
namespace DocQuery

structure Pipeline where
  source : Source
  steps : List Step
  source_sound : source.fault? = none
  steps_sound : ∀ step ∈ steps, step.fault? = none

abbrev SoundSteps := { steps : List Step // ∀ step ∈ steps, step.fault? = none }

/-- Reads the stages after the source, the first of them having the given position. -/
def readSteps (position : Nat) : List Stage → Except PipelineError SoundSteps
  | [] => .ok ⟨[], by simp⟩
  | .source s :: _ => .error ⟨.lateSource s.name, some position⟩
  | .step s :: rest =>
    match h : s.fault? with
    | some fault => .error ⟨fault, some position⟩
    | none => do
      let ⟨steps, sound⟩ ← readSteps (position + 1) rest
      return ⟨s :: steps, by simp [h]; exact sound⟩

namespace Pipeline

def ofStages : List Stage → Except PipelineError Pipeline
  | [] => .error ⟨.noSource none, none⟩
  | .step s :: _ => .error ⟨.noSource (some s.name), some 0⟩
  | .source s :: rest =>
    match h : s.fault? with
    | some fault => .error ⟨fault, some 0⟩
    | none => do
      let ⟨steps, sound⟩ ← readSteps 1 rest
      return ⟨s, steps, h, sound⟩

def stages (p : Pipeline) : List Stage := .source p.source :: p.steps.map .step

def length (p : Pipeline) : Nat := p.stages.length

def isEmpty (p : Pipeline) : Bool := p.stages.isEmpty

end Pipeline

/-- Stages put together one by one. The first stage that could not be made decides the outcome. -/
structure PipelineBuilder where
  stages : List Stage
  error : Option PipelineError

namespace PipelineBuilder

def push (b : PipelineBuilder) (stage : Except PipelineFault Stage) : PipelineBuilder :=
  match b.error, stage with
  | some _, _ => b
  | none, .ok s => { b with stages := b.stages ++ [s] }
  | none, .error fault => { b with error := some ⟨fault, some b.stages.length⟩ }

def start (source : Except PipelineFault Source) : PipelineBuilder :=
  (PipelineBuilder.mk [] none).push (source.map .source)

def step (b : PipelineBuilder) (s : Step) : PipelineBuilder := b.push (.ok (.step s))

def filter (b : PipelineBuilder) (e : Expr) : PipelineBuilder := b.push ((Step.ofExpr e).map .step)

def nearest (b : PipelineBuilder) (query : NearestQuery) : PipelineBuilder :=
  b.push ((Step.nearest query).map .step)

def build (b : PipelineBuilder) : Except PipelineError Pipeline :=
  match b.error with
  | some e => .error e
  | none => Pipeline.ofStages b.stages

end PipelineBuilder
end DocQuery
