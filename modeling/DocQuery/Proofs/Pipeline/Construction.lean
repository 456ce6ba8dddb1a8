import DocQuery.Pipeline.Basic

/-! How stages become a pipeline. A list of stages is read from its start up to the first stage that breaks a rule,
and a builder, which checks some stages as they come and then takes in no more, finds no other pipeline. -/
namespace DocQuery

theorem firstRepeated?_eq_none_iff {seen keys : List DocumentKey} :
    firstRepeated? seen keys = none ↔ keys.Nodup ∧ ∀ key ∈ keys, key ∉ seen := by
  induction keys generalizing seen with
  | nil => simp [firstRepeated?]
  | cons key keys ih =>
    rw [firstRepeated?]
    split
    next repeated => simpa using fun _ _ fresh => absurd repeated fresh
    next fresh =>
      rw [ih, List.nodup_cons, List.forall_mem_cons]
      simp only [List.mem_cons, not_or]
      refine ⟨fun ⟨nodup, clear⟩ => ?_, fun ⟨⟨alone, nodup⟩, _, clear⟩ => ?_⟩
      · exact ⟨⟨fun again => (clear key again).1 rfl, nodup⟩, fresh, fun k hk => (clear k hk).2⟩
      · exact ⟨nodup, fun k hk => ⟨fun same => alone (same ▸ hk), clear k hk⟩⟩

namespace Source

theorem fault?_documents_eq_none_iff {keys : List DocumentKey} :
    (documents keys).fault? = none ↔ keys ≠ [] ∧ keys.Nodup := by
  cases keys with
  | nil => simp [fault?]
  | cons key keys => simp [fault?, firstRepeated?_eq_none_iff]

theorem fault?_of_documents {keys : List DocumentKey} {fault : PipelineFault}
    (h : (documents keys).fault? = some fault) :
    keys = [] ∧ fault.code = .emptyDocuments ∨ ¬ keys.Nodup ∧ fault.code = .duplicateDocument := by
  cases keys with
  | nil =>
    cases h
    exact .inl ⟨rfl, rfl⟩
  | cons key keys =>
    refine .inr ⟨fun nodup => ?_, ?_⟩
    · rw [fault?_documents_eq_none_iff.mpr ⟨by simp, nodup⟩] at h
      contradiction
    · obtain ⟨repeated, _, rfl⟩ := Option.map_eq_some_iff.mp h
      rfl

end Source

theorem NearestQuery.fault?_eq_none_iff {query : NearestQuery} :
    query.fault? = none ↔ query.target ≠ [] ∧ query.limit ≠ some 0 := by
  rw [fault?]
  split
  next empty => simpa using fun some => absurd (List.isEmpty_iff.mp empty) some
  next some =>
    have some : query.target ≠ [] := by simpa using some
    split
    next zero => simp [zero]
    next positive => simp [some, positive]

theorem NearestQuery.fault?_of_search {query : NearestQuery} {fault : PipelineFault}
    (h : query.fault? = some fault) :
    (query.target = [] ∨ query.limit = some 0) ∧ fault.code = .invalidArgument := by
  rw [fault?] at h
  split at h
  next empty =>
    cases h
    exact ⟨.inl (List.isEmpty_iff.mp empty), rfl⟩
  next =>
    split at h
    next zero =>
      cases h
      exact ⟨.inr zero, rfl⟩
    next => contradiction

namespace Stage

/-- What is wrong with a stage at a position: its place comes before its arguments. -/
def faultAt? : Nat → Stage → Option PipelineFault
  | 0, source s => s.fault?
  | 0, step s => some (.noSource (some s.name))
  | _ + 1, source s => some (.lateSource s.name)
  | _ + 1, step s => s.fault?

/-- The rules that a stage can break at a position, and the class that each is reported under. -/
inductive Breaks : Nat → Stage → FaultCode → Prop
  | first (s : Step) : Breaks 0 (step s) .invalidStageOrder
  | later (i : Nat) (s : Source) : Breaks (i + 1) (source s) .invalidStageOrder
  | noDocuments : Breaks 0 (source (.documents [])) .emptyDocuments
  | repeated {keys : List DocumentKey} : ¬ keys.Nodup → Breaks 0 (source (.documents keys)) .duplicateDocument
  | search (i : Nat) {query : NearestQuery} : query.target = [] ∨ query.limit = some 0 →
      Breaks (i + 1) (step (.findNearest query)) .invalidArgument

theorem breaks_of_faultAt? {i : Nat} {stage : Stage} {fault : PipelineFault} (h : stage.faultAt? i = some fault) :
    stage.Breaks i fault.code := by
  cases i with
  | zero =>
    cases stage with
    | source s =>
      cases s with
      | documents keys =>
        obtain ⟨rfl, code⟩ | ⟨twice, code⟩ := Source.fault?_of_documents h
        · exact code ▸ .noDocuments
        · exact code ▸ .repeated twice
      | collection | collectionGroup | database => contradiction
    | step s =>
      cases h
      exact .first s
  | succ i =>
    cases stage with
    | source s =>
      cases h
      exact .later i s
    | step s =>
      cases s with
      | findNearest query =>
        obtain ⟨broken, code⟩ := NearestQuery.fault?_of_search h
        exact code ▸ .search i broken
      | filter | sort | limit | offset | addFields | select | distinct | aggregate => contradiction

theorem faultAt?_eq_none_iff {i : Nat} {stage : Stage} : stage.faultAt? i = none ↔ ∀ code, ¬ stage.Breaks i code := by
  constructor
  · rintro clear code broken
    cases broken with
    | first | later => contradiction
    | noDocuments => contradiction
    | repeated twice => exact twice (Source.fault?_documents_eq_none_iff.mp clear).2
    | search i broken =>
      have sound := NearestQuery.fault?_eq_none_iff.mp clear
      exact broken.elim sound.1 sound.2
  · intro sound
    cases h : stage.faultAt? i with
    | none => rfl
    | some fault => exact absurd (breaks_of_faultAt? h) (sound fault.code)

theorem faultAt?_zero_eq_none_iff {stage : Stage} :
    stage.faultAt? 0 = none ↔ stage.isSource = true ∧ stage.fault? = none := by
  cases stage <;> simp [faultAt?, isSource, fault?]

theorem faultAt?_succ_eq_none_iff {i : Nat} {stage : Stage} :
    stage.faultAt? (i + 1) = none ↔ stage.isSource = false ∧ stage.fault? = none := by
  cases stage <;> simp [faultAt?, isSource, fault?]

theorem fault?_eq_none_iff {stage : Stage} : stage.fault? = none ↔
    (∀ keys, .source (.documents keys) = stage → keys ≠ [] ∧ keys.Nodup) ∧
      ∀ query, .step (.findNearest query) = stage → query.target ≠ [] ∧ query.limit ≠ some 0 := by
  cases stage with
  | source s =>
    cases s with
    | documents keys => simpa [fault?] using Source.fault?_documents_eq_none_iff
    | collection | collectionGroup | database => simp [fault?, Source.fault?]
  | step s =>
    cases s with
    | findNearest query => simpa [fault?, Step.fault?] using NearestQuery.fault?_eq_none_iff
    | filter | sort | limit | offset | addFields | select | distinct | aggregate => simp [fault?, Step.fault?]

end Stage

/-- The fault of the first stage that has one, where the first stage of the list has the given position. -/
def firstFault? (position : Nat) : List Stage → Option PipelineError
  | [] => none
  | stage :: rest =>
    match stage.faultAt? position with
    | some fault => some ⟨fault, some position⟩
    | none => firstFault? (position + 1) rest

theorem firstFault?_append (n : Nat) (before after : List Stage) : firstFault? n (before ++ after) =
    (firstFault? n before).or (firstFault? (n + before.length) after) := by
  induction before generalizing n with
  | nil => rfl
  | cons stage rest ih =>
    rw [List.cons_append, firstFault?, firstFault?]
    cases stage.faultAt? n with
    | some fault => rfl
    | none => rw [ih, List.length_cons, Nat.add_assoc, Nat.add_comm 1]

theorem firstFault?_succ_eq_none_iff {n : Nat} {stages : List Stage} : firstFault? (n + 1) stages = none ↔
    ∀ stage ∈ stages, stage.isSource = false ∧ stage.fault? = none := by
  induction stages generalizing n with
  | nil => simp [firstFault?]
  | cons stage rest ih =>
    rw [firstFault?, List.forall_mem_cons, ← stage.faultAt?_succ_eq_none_iff (i := n)]
    cases stage.faultAt? (n + 1) with
    | some fault => simp
    | none => simp [ih]

/-- The position of the error is that of the first stage with a fault. -/
theorem firstFault?_eq_some {n : Nat} {stages : List Stage} {e : PipelineError} (h : firstFault? n stages = some e) :
    ∃ i stage, e.stage = some (n + i) ∧ stages[i]? = some stage ∧ stage.faultAt? (n + i) = some e.fault ∧
      ∀ j < i, ∀ earlier, stages[j]? = some earlier → earlier.faultAt? (n + j) = none := by
  induction stages generalizing n with
  | nil => contradiction
  | cons stage rest ih =>
    rw [firstFault?] at h
    cases fault : stage.faultAt? n with
    | some fault =>
      rw [fault] at h
      cases h
      exact ⟨0, stage, rfl, rfl, fault, by simp⟩
    | none =>
      rw [fault] at h
      obtain ⟨i, found, position, at_i, broken, clear⟩ := ih h
      refine ⟨i + 1, found, by rw [position]; congr 1; omega, at_i, by rw [← broken]; congr 1; omega, ?_⟩
      intro j before earlier at_j
      cases j with
      | zero => exact Option.some.inj at_j ▸ fault
      | succ j =>
        rw [← clear j (by omega) earlier at_j]
        congr 1
        omega

/-- Where a stage is at fault, the first fault of the list is that one or an earlier one. -/
theorem firstFault?_of_fault {before : List Stage} {stage : Stage} {fault : PipelineFault}
    (broken : stage.faultAt? before.length = some fault) (rest : List Stage) :
    ∃ e i, firstFault? 0 (before ++ stage :: rest) = some e ∧ e.stage = some i ∧ i ≤ before.length ∧
      (i = before.length → e.fault = fault) := by
  rw [firstFault?_append, Nat.zero_add, firstFault?, broken]
  cases earlier : firstFault? 0 before with
  | none => exact ⟨_, before.length, rfl, rfl, Nat.le_refl _, fun _ => rfl⟩
  | some e =>
    obtain ⟨i, _, position, at_i, _⟩ := firstFault?_eq_some earlier
    rw [Nat.zero_add] at position
    have less : i < before.length := (List.getElem?_eq_some_iff.mp at_i).1
    exact ⟨e, i, rfl, position, Nat.le_of_lt less, fun same => absurd same (Nat.ne_of_lt less)⟩

section Reading

variable {n : Nat} {rest : List Stage} {fault : PipelineFault}

theorem readSteps_of_fault {s : Step} (h : s.fault? = some fault) :
    readSteps n (.step s :: rest) = .error ⟨fault, some n⟩ := by
  rw [readSteps]
  split
  next _ same => rw [Option.some.inj (same.symm.trans h)]
  next same => exact absurd (same.symm.trans h) nofun

theorem readSteps_of_sound {s : Step} (h : s.fault? = none) : readSteps n (.step s :: rest) =
    (readSteps (n + 1) rest).map fun steps => ⟨s :: steps.val, List.forall_mem_cons.mpr ⟨h, steps.property⟩⟩ := by
  rw [readSteps]
  split
  next _ same => exact absurd (same.symm.trans h) nofun
  next => cases readSteps (n + 1) rest <;> rfl

theorem Pipeline.ofStages_of_fault {s : Source} (h : s.fault? = some fault) :
    ofStages (.source s :: rest) = .error ⟨fault, some 0⟩ := by
  rw [ofStages]
  split
  next _ same => rw [Option.some.inj (same.symm.trans h)]
  next same => exact absurd (same.symm.trans h) nofun

theorem Pipeline.ofStages_of_sound {s : Source} (h : s.fault? = none) : ofStages (.source s :: rest) =
    (readSteps 1 rest).map fun steps => ⟨s, steps.val, h, steps.property⟩ := by
  rw [ofStages]
  split
  next _ same => exact absurd (same.symm.trans h) nofun
  next => cases readSteps 1 rest <;> rfl

end Reading

/-- Steps are read up to the first fault, and are the stages where there is none. -/
theorem readSteps_spec (n : Nat) (stages : List Stage) :
    (∃ e, firstFault? (n + 1) stages = some e ∧ readSteps (n + 1) stages = .error e) ∨
      firstFault? (n + 1) stages = none ∧ ∃ steps, readSteps (n + 1) stages = .ok steps ∧
        steps.val.map Stage.step = stages := by
  induction stages generalizing n with
  | nil => exact .inr ⟨rfl, _, rfl, rfl⟩
  | cons stage rest ih =>
    cases stage with
    | source s => exact .inl ⟨_, rfl, rfl⟩
    | step s =>
      rw [firstFault?, Stage.faultAt?]
      cases fault : s.fault? with
      | some fault => exact .inl ⟨_, rfl, readSteps_of_fault fault⟩
      | none =>
        obtain ⟨e, first, read⟩ | ⟨clear, steps, read, same⟩ := ih (n + 1)
        · exact .inl ⟨e, first, by rw [readSteps_of_sound fault, read]; rfl⟩
        · exact .inr ⟨clear, _, by rw [readSteps_of_sound fault, read]; rfl, by simp [same]⟩

namespace Pipeline

/-- The rules for lists of stages. -/
structure WellFormed (stages : List Stage) : Prop where
  starts : ∃ s, stages.head? = some (.source s)
  alone : ∀ stage ∈ stages.tail, stage.isSource = false
  documents : ∀ keys, .source (.documents keys) ∈ stages → keys ≠ [] ∧ keys.Nodup
  searches : ∀ query, .step (.findNearest query) ∈ stages → query.target ≠ [] ∧ query.limit ≠ some 0

/-- The stage at a position breaks a rule, and none before it does. -/
structure FirstBreak (stages : List Stage) (i : Nat) (code : FaultCode) : Prop where
  breaks : ∃ stage, stages[i]? = some stage ∧ stage.Breaks i code
  earlier : ∀ j < i, ∀ stage, stages[j]? = some stage → ∀ code, ¬ stage.Breaks j code

theorem ofStages_cons (first : Stage) (rest : List Stage) :
    (∃ e, firstFault? 0 (first :: rest) = some e ∧ ofStages (first :: rest) = .error e) ∨
      firstFault? 0 (first :: rest) = none ∧ ∃ p, ofStages (first :: rest) = .ok p ∧ p.stages = first :: rest := by
  cases first with
  | step s => exact .inl ⟨_, rfl, rfl⟩
  | source s =>
    rw [firstFault?, Stage.faultAt?]
    cases fault : s.fault? with
    | some fault => exact .inl ⟨_, rfl, ofStages_of_fault fault⟩
    | none =>
      obtain ⟨e, first, read⟩ | ⟨clear, steps, read, same⟩ := readSteps_spec 0 rest
      · exact .inl ⟨e, first, by rw [ofStages_of_sound fault, read]; rfl⟩
      · exact .inr ⟨clear, _, by rw [ofStages_of_sound fault, read]; rfl, by simp [stages, same]⟩

theorem wellFormed_cons_iff {first : Stage} {rest : List Stage} :
    WellFormed (first :: rest) ↔ firstFault? 0 (first :: rest) = none := by
  have clear : firstFault? 0 (first :: rest) = none ↔ (first.isSource = true ∧ first.fault? = none) ∧
      ∀ stage ∈ rest, stage.isSource = false ∧ stage.fault? = none := by
    rw [firstFault?, ← first.faultAt?_zero_eq_none_iff, ← firstFault?_succ_eq_none_iff (n := 0)]
    cases first.faultAt? 0 <;> simp
  rw [clear]
  constructor
  · rintro ⟨⟨s, starts⟩, alone, documents, searches⟩
    cases starts
    have sound : ∀ stage ∈ .source s :: rest, stage.fault? = none := fun stage member =>
      stage.fault?_eq_none_iff.mpr
        ⟨fun keys same => documents keys (same ▸ member), fun query same => searches query (same ▸ member)⟩
    rw [List.forall_mem_cons] at sound
    exact ⟨⟨rfl, sound.1⟩, fun stage member => ⟨alone stage member, sound.2 stage member⟩⟩
  · rintro ⟨⟨starts, first_sound⟩, others⟩
    have sound : ∀ stage ∈ first :: rest, stage.fault? = none :=
      List.forall_mem_cons.mpr ⟨first_sound, fun stage member => (others stage member).2⟩
    refine ⟨?_, fun stage member => (others stage member).1, fun keys member => ?_, fun query member => ?_⟩
    · cases first with
      | source s => exact ⟨s, rfl⟩
      | step s => contradiction
    · exact (Stage.fault?_eq_none_iff.mp (sound _ member)).1 keys rfl
    · exact (Stage.fault?_eq_none_iff.mp (sound _ member)).2 query rfl

theorem firstBreak_of_firstFault? {stages : List Stage} {e : PipelineError} (h : firstFault? 0 stages = some e) :
    ∃ i, e.stage = some i ∧ FirstBreak stages i e.code := by
  obtain ⟨i, stage, position, at_i, broken, clear⟩ := firstFault?_eq_some h
  rw [Nat.zero_add] at position broken
  refine ⟨i, position, ⟨stage, at_i, Stage.breaks_of_faultAt? broken⟩, fun j before earlier at_j => ?_⟩
  exact Stage.faultAt?_eq_none_iff.mp (Nat.zero_add j ▸ clear j before earlier at_j)

/-- Lists of stages by the rules are taken as they are; of others the first stage that breaks a rule is named. -/
theorem ofStages_verdict (stages : List Stage) :
    ((∃ p, ofStages stages = .ok p) ↔ WellFormed stages) ∧
      (∀ p, ofStages stages = .ok p → p.stages = stages) ∧
      ∀ e, ofStages stages = .error e →
        stages = [] ∧ e.code = .invalidStageOrder ∧ e.stage = none ∨
          ∃ i, e.stage = some i ∧ FirstBreak stages i e.code := by
  cases stages with
  | nil =>
    refine ⟨⟨fun ⟨p, read⟩ => ?_, fun rules => ?_⟩, fun p read => ?_, fun e refused => ?_⟩
    · contradiction
    · obtain ⟨_, starts⟩ := rules.starts
      contradiction
    · contradiction
    · cases refused
      exact .inl ⟨rfl, rfl, rfl⟩
  | cons first rest =>
    rw [wellFormed_cons_iff]
    obtain ⟨e, broken, refused⟩ | ⟨clear, p, read, same⟩ := ofStages_cons first rest
    · rw [broken, refused]
      refine ⟨by simp, by simp, fun e' same => ?_⟩
      cases same
      exact .inr (firstBreak_of_firstFault? broken)
    · rw [clear, read]
      refine ⟨by simp, fun q found => ?_, by simp⟩
      cases found
      exact same

end Pipeline

/-- The calls of a builder after its source. Searches are checked as they come; what is a stage already is taken
as it is. -/
inductive BuilderCall where
  | step (s : Step)
  | nearest (query : NearestQuery)
  | stage (s : Stage)

namespace BuilderCall

/-- The stage that a call is about. -/
def listed : BuilderCall → Stage
  | step s => .step s
  | nearest query => .step (.findNearest query)
  | stage s => s

end BuilderCall

namespace PipelineBuilder

/-- A builder with its source. Documents are checked as they are given. -/
def opening : Source → PipelineBuilder
  | .documents keys => start (Source.documents keys).checked
  | s => start (.ok s)

def call (b : PipelineBuilder) : BuilderCall → PipelineBuilder
  | .step s => b.step s
  | .nearest query => b.nearest query
  | .stage s => b.push (.ok s)

def calls (source : Source) (calls : List BuilderCall) : PipelineBuilder := calls.foldl call (opening source)

/-- What a builder holds of the stages it was given: all of them, or those before the first one it found at fault. -/
inductive Holds : PipelineBuilder → List Stage → Prop
  | all (stages : List Stage) : Holds ⟨stages, none⟩ stages
  | before {stages : List Stage} {stage : Stage} {fault : PipelineFault} (rest : List Stage) :
      stage.faultAt? stages.length = some fault →
      Holds ⟨stages, some ⟨fault, some stages.length⟩⟩ (stages ++ stage :: rest)

theorem holds_opening (source : Source) : (opening source).Holds [.source source] := by
  cases source with
  | documents keys =>
    rw [opening, start, Source.checked]
    cases fault : (Source.documents keys).fault? with
    | some fault => exact @Holds.before [] _ _ [] fault
    | none => exact .all _
  | collection | collectionGroup | database => exact .all _

theorem Holds.call {b : PipelineBuilder} {stages : List Stage} (h : b.Holds stages) (begun : stages ≠ [])
    (c : BuilderCall) : (b.call c).Holds (stages ++ [c.listed]) := by
  cases h with
  | @before held stage fault rest broken =>
    have kept (b : PipelineBuilder) (e : PipelineError) (known : b.error = some e) : b.call c = b := by
      cases c <;> simp [PipelineBuilder.call, step, nearest, push, known]
    rw [kept _ _ rfl, List.append_assoc]
    exact .before _ broken
  | all stages =>
    cases c with
    | step | stage => exact .all _
    | nearest query =>
      rw [PipelineBuilder.call, nearest, Step.nearest]
      cases fault : query.fault? with
      | none => exact .all _
      | some fault =>
        refine .before [] ?_
        obtain ⟨n, later⟩ := Nat.exists_eq_succ_of_ne_zero (mt List.length_eq_zero_iff.mp begun)
        rw [later]
        exact fault

theorem Holds.calls {b : PipelineBuilder} {stages : List Stage} (h : b.Holds stages) (begun : stages ≠ [])
    (cs : List BuilderCall) : (cs.foldl PipelineBuilder.call b).Holds (stages ++ cs.map (·.listed)) := by
  induction cs generalizing b stages with
  | nil => simpa using h
  | cons c cs ih =>
    have next := ih (h.call begun c) (by simp)
    rwa [List.append_assoc] at next

theorem holds_calls (source : Source) (cs : List BuilderCall) :
    (calls source cs).Holds (.source source :: cs.map (·.listed)) :=
  (holds_opening source).calls (by simp) cs

/-- A builder makes the pipeline of the stages it was given. An error that it keeps is that of reading those stages,
unless an earlier stage is at fault, which only a reading of the whole list finds. -/
theorem build_calls (source : Source) (cs : List BuilderCall) :
    (∀ p, (calls source cs).build = .ok p ↔ Pipeline.ofStages (.source source :: cs.map (·.listed)) = .ok p) ∧
      ∀ e, (calls source cs).error = some e → ∃ k, e.stage = some k ∧
        ∃ e' i, Pipeline.ofStages (.source source :: cs.map (·.listed)) = .error e' ∧ e'.stage = some i ∧ i ≤ k ∧
          (i = k → e'.code = e.code ∧ e'.message = e.message) := by
  have held := holds_calls source cs
  generalize given : Stage.source source :: cs.map (·.listed) = stages at held ⊢
  generalize calls source cs = b at held ⊢
  cases held with
  | all => exact ⟨fun _ => Iff.rfl, fun _ kept => nomatch kept⟩
  | @before held stage fault rest broken =>
    obtain ⟨e', i, first, position, least, same⟩ := firstFault?_of_fault broken rest
    obtain ⟨e, found, refused⟩ | ⟨clear, _⟩ := Pipeline.ofStages_cons (.source source) (cs.map (·.listed))
    · rw [given] at found refused
      cases found.symm.trans first
      refine ⟨fun p => ?_, fun _ kept => ?_⟩
      · rw [refused]
        exact ⟨(nomatch ·), (nomatch ·)⟩
      · cases kept
        refine ⟨held.length, rfl, e', i, refused, position, least, fun here => ?_⟩
        exact ⟨congrArg PipelineFault.code (same here), congrArg PipelineFault.message (same here)⟩
    · rw [given, first] at clear
      contradiction

/-- The builder finds the search without a target and the list is refused for the source before it. -/
example : (calls .database [.stage (.source .database), .nearest ⟨.list [], [], .cosine, none, none⟩]).error =
      some ⟨.emptyTarget, some 2⟩ ∧
    firstFault? 0 [.source .database, .source .database, .step (.findNearest ⟨.list [], [], .cosine, none, none⟩)] =
      some ⟨.lateSource "database", some 1⟩ := by
  exact ⟨rfl, rfl⟩

end PipelineBuilder
end DocQuery
