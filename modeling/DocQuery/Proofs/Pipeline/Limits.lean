import DocQuery.Pipeline.Execute
import DocQuery.Proofs.Pipeline.Rows
import DocQuery.Regex.Library

/-! When an execution reports that a limit was applied: some step had a limit below the number of rows it could
keep, or some search was given a row that has no place in its ranking. -/
namespace DocQuery

variable {rules : RegexRules} {query : NearestQuery} {rows : List Row} {step : Step}

/-- The row has a vector as long as the target, and the distance between them is a number. -/
def NearestQuery.Ranks (rules : RegexRules) (query : NearestQuery) (row : Row) : Prop :=
  ∃ components d, evaluate rules row query.field = .value (.vector components) ∧
    components.length = query.target.length ∧
    query.measure.measure? components query.target = some d ∧ d.isNaN = false

theorem NearestQuery.distance?_eq_some {o : Outcome} {d : Double} : query.distance? o = some d ↔
    ∃ components, o = .value (.vector components) ∧ components.length = query.target.length ∧
      query.measure.measure? components query.target = some d ∧ d.isNaN = false := by
  constructor
  · intro found
    unfold distance? at found
    split at found
    case h_1 components =>
      split at found
      case isTrue size =>
        split at found
        case h_1 e measured =>
          split at found
          case isTrue => contradiction
          case isFalse number =>
            cases found
            exact ⟨components, rfl, size, measured, by simpa using number⟩
        case h_2 => contradiction
      case isFalse => contradiction
    case h_2 => contradiction
  · rintro ⟨components, rfl, size, measured, number⟩
    simp [distance?, size, measured, number]

theorem rankedRow?_isSome_iff (row : Row) : (rankedRow? rules query row).isSome ↔ query.Ranks rules row := by
  rw [rankedRow?, Option.isSome_map, NearestQuery.Ranks, exists_comm, Option.isSome_iff_exists]
  exact exists_congr fun _ => NearestQuery.distance?_eq_some

instance (rules : RegexRules) (query : NearestQuery) : DecidablePred (query.Ranks rules) := fun row =>
  decidable_of_iff _ (rankedRow?_isSome_iff row)

/-- How many of the rows a search ranks. -/
def NearestQuery.rankedCount (rules : RegexRules) (query : NearestQuery) (rows : List Row) : Nat :=
  rows.countP fun row => query.Ranks rules row

theorem length_filterMap_rankedRow? :
    (rows.filterMap (rankedRow? rules query)).length = query.rankedCount rules rows := by
  rw [List.length_filterMap_eq_countP, NearestQuery.rankedCount]
  refine List.countP_congr fun row _ => ?_
  rw [rankedRow?_isSome_iff, decide_eq_true_eq]

theorem NearestQuery.length_cut (query : NearestQuery) (ranked : List RankedRow) :
    (query.cut ranked).length = (query.limit.map (min · ranked.length)).getD ranked.length := by
  rw [NearestQuery.cut]
  cases query.limit with
  | none => rfl
  | some n => exact List.length_take

theorem length_nearestRows : (nearestRows rules query rows).value.length =
    (query.limit.map (min · (query.rankedCount rules rows))).getD (query.rankedCount rules rows) := by
  rw [nearestRows_value, List.length_map, NearestQuery.length_cut, rankRows, List.length_mergeSort,
    length_filterMap_rankedRow?]

namespace Step

/-- The step has a limit, and more rows that it could keep. -/
def Limits (rules : RegexRules) (received : List Row) : Step → Prop
  | .limit n => n < received.length
  | findNearest query => ∃ n, query.limit = some n ∧ n < query.rankedCount rules received
  | _ => False

/-- The step is a search that was given a row with no place in its ranking. -/
def LeavesOut (rules : RegexRules) (received : List Row) : Step → Prop
  | findNearest query => ∃ row ∈ received, ¬ query.Ranks rules row
  | _ => False

theorem shortens_iff : (step.isLimiting && decide ((step.run rules rows).value.length < rows.length)) = true ↔
    step.Limits rules rows ∨ step.LeavesOut rules rows := by
  rw [Bool.and_eq_true, decide_eq_true_eq]
  cases step with
  | limit n => simp [isLimiting, run, Limits, LeavesOut, pure]
  | findNearest query =>
    have most : query.rankedCount rules rows ≤ rows.length := List.countP_le_length
    have all : query.rankedCount rules rows = rows.length ↔ ∀ row ∈ rows, query.Ranks rules row := by
      simp [NearestQuery.rankedCount, List.countP_eq_length]
    have some : query.rankedCount rules rows < rows.length ↔ ∃ row ∈ rows, ¬ query.Ranks rules row := by
      rw [Nat.lt_iff_le_and_ne, and_iff_right most, ne_eq, all]
      push Not
      rfl
    simp only [isLimiting, run, Limits, LeavesOut, length_nearestRows, true_and, ← some]
    cases query.limit with
    | none => simp
    | some n =>
      simp only [Option.map_some, Option.getD_some, Option.some.injEq, exists_eq_left']
      omega
  | filter | sort | offset | addFields | select | distinct | aggregate => simp [isLimiting, Limits, LeavesOut]

end Step

theorem runSteps_limited_iff (rules : RegexRules) (rows : List Row) (steps : List Step) :
    (runSteps rules rows steps).limited = true ↔ ∃ earlier step later, steps = earlier ++ step :: later ∧
      let received := (runSteps rules rows earlier).rows
      step.Limits rules received ∨ step.LeavesOut rules received := by
  induction steps generalizing rows with
  | nil => simp [runSteps]
  | cons step steps ih =>
    rw [runSteps, Bool.or_eq_true, Step.shortens_iff, ih]
    constructor
    · rintro (now | ⟨earlier, later, rest, rfl, cut⟩)
      · exact ⟨[], step, steps, rfl, now⟩
      · exact ⟨step :: earlier, later, rest, rfl, cut⟩
    · rintro ⟨earlier, other, rest, eq, cut⟩
      cases earlier with
      | nil =>
        obtain ⟨rfl, rfl⟩ := List.cons.inj eq
        exact .inl cut
      | cons first earlier =>
        obtain ⟨rfl, rfl⟩ := List.cons.inj eq
        exact .inr ⟨earlier, other, rest, rfl, cut⟩

namespace Pipeline

/-- The report of an applied limit, step by step: apart from limits it tells of rows that a search left out for
want of a distance, whether the search has a limit or not. -/
theorem limitApplied_iff (rules : RegexRules) (p : Pipeline) (docs : List Document) :
    (p.execute rules docs).limitApplied = true ↔ ∃ earlier step later, p.steps = earlier ++ step :: later ∧
      let received := (runSteps rules (p.source.rows docs) earlier).rows
      step.Limits rules received ∨ step.LeavesOut rules received :=
  runSteps_limited_iff rules (p.source.rows docs) p.steps

/-- A search without a limit, over a document without a vector. -/
theorem limitApplied_without_limit :
    let query : NearestQuery := ⟨.field ⟨["embedding"]⟩, [.one], .euclidean, none, none⟩
    let p : Pipeline := ⟨.database, [.findNearest query], rfl, by simp [query, Step.fault?, NearestQuery.fault?]⟩
    let doc : Document := ⟨⟨⟨["shop", "b"]⟩, by decide⟩, ⟨0, 0, by decide, by decide, by decide⟩, none, []⟩
    (p.execute 100 [doc]).limitApplied = true ∧
      ∀ earlier step later, p.steps = earlier ++ step :: later →
        ¬ step.Limits 100 (runSteps 100 (p.source.rows [doc]) earlier).rows := by
  intro query p doc
  refine ⟨by decide +kernel, fun earlier step later eq => ?_⟩
  obtain ⟨rfl, rfl⟩ : earlier = [] ∧ step = .findNearest query := by
    cases earlier with
    | nil => exact ⟨rfl, (List.cons.inj eq).1.symm⟩
    | cons => simp [p] at eq
  simp [Step.Limits, query]

end Pipeline
end DocQuery
