import DocQuery.Eval.Demand
import DocQuery.Log.Logger
import DocQuery.Metrics

/-! Evaluating expressions one after another, with one cache of patterns, one count of errors and one log. -/
namespace DocQuery

open PatternCache (Retention Choices)

/-- The log lines of evaluations, and the pattern cache after them. -/
structure Reported where
  lines : List LogLine
  cache : PatternCache

/-- Asks the cache for a pattern. A bad one is reported unless its failure was cached. -/
def fetchPattern (logger : Logger) (keep : Retention) (cache : PatternCache) (request : PatternRequest) :
    Except String Pattern × Reported :=
  let answer := cache.get keep request
  match answer.fresh, answer.result with
  | true, .error reason =>
    (.error reason,
      ⟨logger.report .invalidRegex [("pattern", request.text), ("reason", reason)], answer.cache⟩)
  | _, result => (result, ⟨[], answer.cache⟩)

/-- What the evaluations of one run share: the cache and how often it was asked, the stage that they belong to, and what
was counted and logged so far. -/
structure StageContext where
  cache : PatternCache
  logger : Logger := {}
  metrics : Option Metrics := none
  stage : String := ""
  asked : Nat := 0
  errors : Nat := 0
  lines : List LogLine := []

namespace StageContext

def fresh (rules : RegexRules) : StageContext := { cache := .empty rules }

def write (ctx : StageContext) (lines : List LogLine) : StageContext := { ctx with lines := ctx.lines ++ lines }

def enter (ctx : StageContext) (stage : String) : StageContext := { ctx with stage := stage }

/-- Counts an error of the stage. It is reported at the lowest threshold. -/
def record (ctx : StageContext) (error : EvalError) : StageContext :=
  { ctx with errors := ctx.errors + 1 }.write <|
    if ctx.logger.enabled .trace then
      ctx.logger.report .evaluationError [("stage", ctx.stage), ("error", error.message)]
    else []

/-- Counts a stage with so many rows of output. It is reported at the lowest threshold. -/
def complete (ctx : StageContext) (stage : String) (index output : Nat) : StageContext :=
  { ctx with metrics := ctx.metrics.map Metrics.addStage }.write <|
    if ctx.logger.enabled .trace then
      ctx.logger.report .stageComplete
        [("stage", stage), ("index", toString index), ("output", toString output)]
    else []

end StageContext

/-- A computation that evaluates expressions with what others have left. -/
abbrev InContext := StateM StageContext

variable (choices : Choices)

def askPattern (request : PatternRequest) : InContext (Except String Pattern) := fun ctx =>
  let (result, reported) := fetchPattern ctx.logger (choices ctx.asked) ctx.cache request
  (result, { ctx with cache := reported.cache, asked := ctx.asked + 1 }.write reported.lines)

/-- Applies a function, asking the cache for the pattern of a test. -/
def Builtin.applyIn (f : Builtin) (args : List Outcome) : InContext Outcome :=
  match f, args with
  | .pattern p, [.value (.string s), .value (.string t)] => do
    match ← askPattern choices ⟨p.kind, t⟩ with
    | .ok compiled => return .boolean (compiled.accepts s.toList)
    | .error reason => return .error (.invalidPattern t reason)
  | f, args => do return f.apply (← get).cache.rules args

variable (row : Row)

mutual

def evaluateIn : Expr → InContext Outcome
  | .field path => return row.field path
  | .constant v => return .value v
  | .call f args => do f.applyIn choices (← readIn f.consulted [] args)
  | .condition f args _ => do f.applyIn choices (← readIn f.consulted [] args)
  | .list items => do
    let outcomes ← readIn (fun os => List.range (countUpTo (!hasValue ·) os)) [] items
    return .ofExcept ((collectItems outcomes).map .array)

/-- Reads operands from left to right, given those that are seen. What is not consulted is passed over and left
absent. -/
def readIn (consulted : List Outcome → List Nat) (seen : List Outcome) : List Expr → InContext (List Outcome)
  | [] => return seen
  | e :: es => do
    let ahead := List.replicate (es.length + 1) Outcome.absent
    if seen.length ∈ consulted (seen ++ ahead) then
      readIn consulted (seen ++ [← evaluateIn e]) es
    else
      readIn consulted (seen ++ [.absent]) es

end

/-- Evaluates an expression and records an error. -/
def observeIn (e : Expr) : InContext Outcome := do
  let outcome ← evaluateIn choices row e
  match outcome with
  | .error error => modify (·.record error)
  | _ => pure ()
  return outcome

end DocQuery
