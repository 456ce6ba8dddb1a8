import DocQuery.Proofs.Machine.Evaluate
import DocQuery.Proofs.Pipeline.Construction
import DocQuery.Proofs.Pipeline.Interpretation
import DocQuery.Regex.Library

/-! Executing pipelines on the machine. Keys of documents have the segments that a source asks for, a list of stages
that is a pipeline has a first one, and no expression stops the machine. -/
namespace DocQuery
namespace Machine

variable {α : Type}

/-- Whether a stage chooses a document where it is the source. -/
def chooses (source : Stage) (doc : Document) : Run Bool :=
  match source with
  | .source (.collection path) => do return (← parent doc.key.path) == path
  | .source (.collectionGroup id) => do return (← collectionId doc.key.path) == id
  | stage => return stage.chooses doc

/-- The steps among stages; a source among them would leave its rows as they are. -/
def stepsOf (stages : List Stage) : List Step :=
  stages.filterMap fun
    | .step s => some s
    | .source _ => none

def execute (rules : RegexRules) (stages : List Stage) (docs : List Document) : Run (List Row × Bool) := do
  let source ← item stages 0
  let chosen ← docs.filterM (chooses source)
  Interpreted.runSteps (evaluate rules) (chosen.map Document.toRow) (stepsOf (stages.drop 1))

theorem chooses_eq (source : Stage) (doc : Document) : chooses source doc = .ok (source.chooses doc) := by
  unfold chooses
  split
  next path => rw [parent_eq]; rfl
  next id => rw [collectionId_eq]; rfl
  next => rfl

theorem filterAuxM_eq {p : α → Run Bool} {q : α → Bool} (h : ∀ a, p a = .ok (q a)) (items kept : List α) :
    items.filterAuxM p kept = .ok ((items.filter q).reverse ++ kept) := by
  induction items generalizing kept with
  | nil => rfl
  | cons a items ih =>
    rw [List.filterAuxM, h a]
    cases keep : q a with
    | true =>
      rw [List.filter_cons_of_pos keep, List.reverse_cons, List.append_assoc]
      exact ih (a :: kept)
    | false =>
      rw [List.filter_cons_of_neg (by simp [keep])]
      exact ih kept

theorem filterM_eq {p : α → Run Bool} {q : α → Bool} (h : ∀ a, p a = .ok (q a)) (items : List α) :
    items.filterM p = .ok (items.filter q) := by
  rw [List.filterM, filterAuxM_eq h, List.append_nil]
  exact congrArg Except.ok (List.reverse_reverse _)

theorem stepsOf_map (steps : List Step) : stepsOf (steps.map .step) = steps := by
  rw [stepsOf, List.filterMap_map]
  exact List.filterMap_some

/-- Computations of the machine stand for what they end with where they do not stop. -/
def interpretation : Interpretation Run where
  Stands x o := x = .ok o.value
  result _ := rfl
  sequence first next := by
    rw [first]
    exact next

theorem runSteps_eq (rules : RegexRules) (rows : List Row) (steps : List Step) :
    Interpreted.runSteps (evaluate rules) rows steps =
      .ok ((runSteps rules rows steps).rows, (runSteps rules rows steps).limited) :=
  interpretation.runSteps_stands (evaluate_eq rules) rows steps

theorem stages_of_accepted {stages : List Stage} {p : Pipeline} (accepted : Pipeline.ofStages stages = .ok p) :
    stages = .source p.source :: p.steps.map .step := by
  cases stages with
  | nil => cases accepted
  | cons first rest =>
    obtain ⟨e, _, refused⟩ | ⟨_, q, read, same⟩ := Pipeline.ofStages_cons first rest
    · cases accepted.symm.trans refused
    · cases accepted.symm.trans read
      exact same.symm

theorem execute_eq (rules : RegexRules) (p : Pipeline) (docs : List Document) :
    execute rules p.stages docs = .ok ((p.execute rules docs).rows, (p.execute rules docs).limitApplied) := by
  have chosen : docs.filterM (chooses (.source p.source)) = .ok (docs.filter fun doc => p.source.chooses doc.key) :=
    filterM_eq (chooses_eq (.source p.source)) docs
  have source : item p.stages 0 = .ok (.source p.source) := rfl
  have steps : stepsOf (p.stages.drop 1) = p.steps := stepsOf_map p.steps
  rw [execute, source, steps]
  change docs.filterM (chooses (.source p.source)) >>= _ = _
  rw [chosen]
  exact runSteps_eq rules _ p.steps

/-- The machine never stops. Every expression has its outcome on every row, and every list of stages that is a pipeline
its result on every list of documents. -/
theorem never_stops (rules : RegexRules) :
    (∀ row e, evaluate rules row e = .ok (DocQuery.evaluate rules row e)) ∧
      ∀ stages p docs, Pipeline.ofStages stages = .ok p → execute rules stages docs =
        .ok ((p.execute rules docs).rows, (p.execute rules docs).limitApplied) := by
  refine ⟨evaluate_eq rules, fun stages p docs accepted => ?_⟩
  rw [stages_of_accepted accepted]
  exact execute_eq rules p docs

/-- Assignments with positions and amounts as far off as words allow, a text found around ends of lines and characters
of two bytes, and a call without enough operands. -/
def extremes : List Assignment :=
  let text := Expr.constant (.string "é\nä\n")
  let least := Expr.constant (.integer Int64.minValue)
  let most := Expr.constant (.integer Int64.maxValue)
  [⟨⟨["slice"]⟩, .call (.text .substr) [text, least, most]⟩,
    ⟨⟨["item"]⟩, .call (.collection .arrayGet) [.constant (.array [.null]), least]⟩,
    ⟨⟨["found"]⟩, .call (.pattern .like) [text, .constant (.string "%\nä\n%")]⟩,
    ⟨⟨["later"]⟩, .call (.time .sub) [.field ⟨["__update_time__"]⟩, .constant (.string "day"), least]⟩,
    ⟨⟨["number"]⟩, .call (.time (.toUnix .micros)) [.field ⟨["__update_time__"]⟩]⟩,
    ⟨⟨["short"]⟩, .call (.text .substr) [text]⟩]

def firstSecond : Timestamp := ⟨-62135596800, 0, by decide, by decide, by decide⟩

def extremeDocument : Document := ⟨⟨⟨["a", "1", "b", "2"]⟩, by simp [ResourcePath.length]⟩, firstSecond, none, []⟩

theorem never_stops_extremes :
    (∃ p, Pipeline.ofStages [.source (.collectionGroup "b"), .step (.select extremes)] = .ok p) ∧
      execute 100 [.source (.collectionGroup "b"), .step (.select extremes)] [extremeDocument] =
        .ok ([extremeDocument.toRow.withFields [("slice", .string "é\nä\n"), ("found", .boolean true),
          ("number", .integer (-62135596800000000))]], false) := by
  have accepted : ∃ p, Pipeline.ofStages [.source (.collectionGroup "b"), .step (.select extremes)] = .ok p := ⟨_, rfl⟩
  refine ⟨accepted, ?_⟩
  obtain ⟨p, read⟩ := accepted
  rw [(never_stops 100).2 _ p [extremeDocument] read]
  cases read
  rfl

end Machine
end DocQuery
