import DocQuery.Proofs.Eval.Functions
import DocQuery.Proofs.Eval.Predicates

/-! Applying a function to operands that agree, and how far they have to agree for it. -/
namespace DocQuery

variable {legible : DocumentKey → Prop} {exact grade : Bool} {o o' : Outcome} {args args' : List Outcome}

/-- Whether operands have to agree exactly for outcomes to agree, exactly or not. -/
def Builtin.needs (exact : Bool) : Builtin → Bool
  | arithmetic _ => true
  | text .substr => true
  | collection .arrayGet => true
  | collection .arrayLength => false
  | collection _ => exact
  | vector .length => false
  | vector _ => true
  | time (.toUnix _) => false
  | time _ => true
  | selection .isError => false
  | selection _ => exact
  | _ => false

theorem Selection.apply_agrees (s : Selection)
    (h : List.Forall₂ (Outcome.Agrees legible ((Builtin.selection s).needs exact)) args args') :
    (s.apply args).Agrees legible exact (s.apply args') := by
  cases s with
  | maximum => exact .value (firstExtreme_agrees .gt h)
  | minimum => exact .value (firstExtreme_agrees .lt h)
  | isError =>
    rcases h with _ | ⟨tried, _ | _⟩
    · exact .error _ _
    · rw [apply, apply, tried.isError_eq]
      exact .boolean _
    · exact .error _ _
  | ifError =>
    rcases h with _ | ⟨tried, _ | ⟨fallback, _ | _⟩⟩ <;>
      first | exact .error _ _ | exact ifError_agrees tried fallback
  | cond =>
    rcases h with _ | ⟨test, _ | ⟨yes, _ | ⟨no, _ | _⟩⟩⟩ <;>
      first | exact .error _ _ | exact conditional_agrees test yes no

theorem TextFunction.apply_agrees (t : TextFunction)
    (h : List.Forall₂ (Outcome.Agrees legible ((Builtin.text t).needs exact)) args args') :
    (t.apply args).Agrees legible exact (t.apply args') := by
  refine .ofExcept ?_
  cases t with
  | concat => exact (join_agrees _ h).map fun _ _ same => same ▸ .string _
  | substr =>
    rcases h with _ | ⟨text, _ | ⟨position, _ | ⟨length, _ | _⟩⟩⟩ <;>
      first
      | exact .error _ _
      | exact cut_agrees _ text position .none
      | exact cut_agrees _ text position (.some length)
  | charLength | byteLength | toLower | toUpper | trim | reverse =>
    rcases h with _ | ⟨text, _ | _⟩ <;>
      first
      | exact .error _ _
      | exact countChars_agrees _ text
      | exact countBytes_agrees _ text
      | exact transform_agrees _ _ text
  | replaceFirst | replaceAll =>
    rcases h with _ | ⟨text, _ | ⟨find, _ | ⟨new, _ | _⟩⟩⟩ <;>
      first | exact .error _ _ | exact replace_agrees _ _ text find new
  | contains | startsWith | endsWith =>
    rcases h with _ | ⟨text, _ | ⟨needle, _ | _⟩⟩ <;>
      first | exact .error _ _ | exact search_agrees _ _ text needle

theorem CollectionFunction.apply_agrees (c : CollectionFunction)
    (h : List.Forall₂ (Outcome.Agrees legible ((Builtin.collection c).needs exact)) args args') :
    (c.apply args).Agrees legible exact (c.apply args') := by
  cases c with
  | arrayConcat => exact .ofExcept ((join_agrees _ h).map fun _ _ items => .array items)
  | map =>
    refine .ofExcept ((pairs_agree _ h).map fun _ _ pairs => ?_)
    exact Value.Agrees.map_iff.mpr ⟨_, rfl, Entries.Agree.nil.extend_pairs pairs⟩
  | mapMerge =>
    refine .ofExcept ((merge_agrees _ .nil h).map fun _ _ entries => ?_)
    exact Value.Agrees.map_iff.mpr ⟨_, rfl, entries⟩
  | arrayLength =>
    rcases h with _ | ⟨array, _ | _⟩
    · exact .error _ _
    · refine .ofExcept ((array.array _).map fun _ _ items => ?_)
      rw [items.length_eq]
      exact .integer _
    · exact .error _ _
  | arrayReverse =>
    rcases h with _ | ⟨array, _ | _⟩
    · exact .error _ _
    · exact .ofExcept ((array.array _).map fun _ _ items => .array (List.rel_reverse items))
    · exact .error _ _
  | arrayGet =>
    rcases h with _ | ⟨array, _ | ⟨index, _ | _⟩⟩ <;>
      first | exact .error _ _ | exact .ofExcept (getItem_agrees _ array index)
  | mapGet =>
    rcases h with _ | ⟨m, _ | ⟨key, _ | _⟩⟩ <;> first | exact .error _ _ | exact getEntry_agrees _ m key
  | mapRemove =>
    rcases h with _ | ⟨m, _ | ⟨key, _ | _⟩⟩ <;>
      first | exact .error _ _ | exact .ofExcept (removeEntry_agrees _ m key)

theorem VectorFunction.apply_agrees (v : VectorFunction)
    (h : List.Forall₂ (Outcome.Agrees legible ((Builtin.vector v).needs exact)) args args') :
    (v.apply args).Agrees legible exact (v.apply args') := by
  refine .ofExcept ?_
  cases v with
  | length =>
    rcases h with _ | ⟨vector, _ | ⟨other, _ | _⟩⟩
    · exact .error _ _
    · exact count_agrees vector
    · exact length_distance_agrees vector other
    · exact .error _ _
  | _ =>
    rcases h with _ | ⟨left, _ | ⟨right, _ | _⟩⟩ <;>
      first | exact .error _ _ | exact distance_agrees _ left right

theorem TimeFunction.apply_agrees (t : TimeFunction)
    (h : List.Forall₂ (Outcome.Agrees legible ((Builtin.time t).needs exact)) args args') :
    (t.apply args).Agrees legible exact (t.apply args') := by
  refine .ofExcept ?_
  cases t with
  | ofUnix unit =>
    rcases h with _ | ⟨number, _ | _⟩ <;> first | exact .error _ _ | exact ofUnixNumber_agrees _ number
  | toUnix unit =>
    rcases h with _ | ⟨time, _ | _⟩ <;> first | exact .error _ _ | exact toUnixNumber_agrees _ time
  | add | sub =>
    rcases h with _ | ⟨time, _ | ⟨unit, _ | ⟨amount, _ | _⟩⟩⟩ <;>
      first | exact .error _ _ | exact shift_agrees _ _ time unit amount

theorem Builtin.run_agrees (rules : RegexRules) (f : Builtin)
    (h : List.Forall₂ (Outcome.Agrees legible (f.needs exact)) args args') :
    (f.run rules args).Agrees legible exact (f.run rules args') := by
  cases f with
  | relation r =>
    rcases h with _ | ⟨a, _ | ⟨b, _ | _⟩⟩ <;> first | exact .error _ _ | exact r.apply_agrees a b
  | inspection i => rcases h with _ | ⟨o, _ | _⟩ <;> first | exact .error _ _ | exact i.apply_agrees o
  | membership m => rcases h with _ | ⟨search, rest⟩ <;> first | exact .error _ _ | exact m.apply_agrees search rest
  | containment c =>
    cases c with
    | element =>
      rcases h with _ | ⟨array, _ | ⟨wanted, _ | ⟨other, rest⟩⟩⟩
      · exact .error _ _
      · exact Containment.severalInArray_agrees _ array .nil
      · exact Containment.inArray_agrees array wanted
      · exact Containment.severalInArray_agrees _ array (.cons wanted (.cons other rest))
    | all | any =>
      rcases h with _ | ⟨array, rest⟩
      · exact .error _ _
      · exact Containment.severalInArray_agrees _ array rest
  | connective c => exact c.apply_agrees h
  | selection s => exact s.apply_agrees h
  | arithmetic op => exact op.apply_agrees h
  | text t => exact t.apply_agrees h
  | pattern p =>
    rcases h with _ | ⟨text, _ | ⟨pattern, _ | _⟩⟩ <;>
      first | exact .error _ _ | exact .ofExcept (p.apply_agrees rules text pattern)
  | collection c => exact c.apply_agrees h
  | vector v => exact v.apply_agrees h
  | time t => exact t.apply_agrees h
  | documentId =>
    rcases h with _ | ⟨reference, _ | _⟩
    · exact .error _ _
    · exact .ofExcept ((reference.reference _).map fun _ _ same => same ▸ .string _)
    · exact .error _ _

theorem Builtin.apply_agrees (rules : RegexRules) (f : Builtin)
    (h : List.Forall₂ (Outcome.Agrees legible (f.needs exact)) args args') :
    (f.apply rules args).Agrees legible exact (f.apply rules args') := by
  rw [apply, apply, h.length_eq]
  split
  next => exact f.run_agrees rules h
  next => exact .error _ _

end DocQuery
