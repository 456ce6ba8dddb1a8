import DocQuery.Proofs.Entries.Writes
import DocQuery.Proofs.Machine.Evaluate
import DocQuery.Regex.Library

/-! Entries of maps by their key. Writing maps, or pairs, one after another leaves the last value of each key at the
place of its first; taking a key out leaves all other entries as they are. A vector stands for its map everywhere. -/
namespace DocQuery
namespace CollectionFunction

section Pairs

/-- The pairs that have a value. -/
def present (entries : List (String × Option Value)) : Fields := entries.filterMap fun e => e.2.map (e.1, ·)

def presence (value : Option Value) : Outcome := value.elim .absent .value

variable {k : String} {v : Value} {entries : List (String × Option Value)}

theorem present_given (before after : List (String × Option Value)) :
    present (before ++ (k, some v) :: after) = present before ++ (k, v) :: present after := List.filterMap_append

theorem mem_keys_present : k ∈ Entries.keys (present entries) ↔ ∃ w, (k, some w) ∈ entries := by
  constructor
  · intro member
    obtain ⟨⟨_, w⟩, inside, rfl⟩ := List.mem_map.mp member
    obtain ⟨⟨_, value⟩, listed, same⟩ := List.mem_filterMap.mp inside
    obtain ⟨_, rfl, same⟩ := Option.map_eq_some_iff.mp same
    cases same
    exact ⟨_, listed⟩
  · rintro ⟨w, listed⟩
    exact List.mem_map.mpr ⟨(k, w), List.mem_filterMap.mpr ⟨_, listed, rfl⟩, rfl⟩

theorem keys_present (entries : List (String × Option Value)) :
    Entries.keys (present entries) = (entries.filter (·.2.isSome)).map (·.1) := by
  induction entries with
  | nil => rfl
  | cons e es ih =>
    obtain ⟨k, value⟩ := e
    cases value with
    | none => exact ih
    | some v => exact congrArg (k :: ·) ih

/-- Pairs are read in turn. -/
theorem pairs_read (f : Builtin) (entries : List (String × Option Value)) :
    pairs f (entries.flatMap fun e => [.value (.string e.1), presence e.2]) = .ok (present entries) := by
  induction entries with
  | nil => rfl
  | cons e es ih =>
    obtain ⟨k, value⟩ := e
    rw [List.flatMap_cons, List.cons_append, List.cons_append, List.nil_append]
    cases value with
    | none => exact ih
    | some v =>
      have step (rest : List Outcome) : pairs f (.value (.string k) :: presence (some v) :: rest) =
          (do return (k, v) :: (← pairs f rest)) := rfl
      rw [step, ih]
      rfl

end Pairs

section Calls

variable {rules : RegexRules} {row : Row} {map key : Expr} {m : Fields} {k : String}

def entryCall (map key : Expr) : Expr := .call (.collection .mapGet) [map, key]
def mergeCall (maps : List Expr) : Expr := .call (.collection .mapMerge) maps
def removeCall (map key : Expr) : Expr := .call (.collection .mapRemove) [map, key]
def mapCall (pairs : List (Expr × Expr)) : Expr := .call (.collection .map) (pairs.flatMap fun p => [p.1, p.2])

/-- An expression whose value is a map, or a vector, of these entries. -/
structure Holds (rules : RegexRules) (row : Row) (e : Expr) (m : Fields) : Prop where
  value : ∃ v, evaluate rules row e = .value v ∧ v.entries? = some m
  distinct : (Entries.keys m).Nodup

theorem Holds.of_map {e : Expr} (he : evaluate rules row e = .value (.map m)) (distinct : (Entries.keys m).Nodup) :
    Holds rules row e m := ⟨⟨_, he, rfl⟩, distinct⟩

theorem Holds.entries {e : Expr} (f : Builtin) (holds : Holds rules row e m) :
    (evaluate rules row e).entries f = .ok m := by
  obtain ⟨v, found, read⟩ := holds.value
  have operand : (Outcome.value v).operand f = .ok v := rfl
  rw [found, Outcome.entries, operand]
  simp only [bind, Except.bind, read]
  rfl

theorem distinct_of_mem {maps : List Expr} {ms : List Fields} (h : List.Forall₂ (Holds rules row) maps ms)
    (member : m ∈ ms) : (Entries.keys m).Nodup := by
  obtain ⟨_, _, holds⟩ := exists_of_forall₂ h.flip member
  exact holds.distinct

theorem evaluate_entry (hm : Holds rules row map m) (hk : evaluate rules row key = .value (.string k)) :
    evaluate rules row (entryCall map key) = presence (Entries.find? k m) := by
  have applied (a b : Outcome) : (Builtin.collection .mapGet).apply rules [a, b] = getEntry (.collection .mapGet) a b :=
    rfl
  have text : (Outcome.value (.string k)).string (.collection .mapGet) = .ok k := rfl
  rw [entryCall, evaluate_application rfl, List.map_cons, List.map_cons, List.map_nil, hk, applied, getEntry,
    hm.entries, text]
  simp only [bind, Except.bind, pure, Except.pure]
  cases Entries.find? k m <;> rfl

theorem evaluate_remove (hm : Holds rules row map m) (hk : evaluate rules row key = .value (.string k)) :
    evaluate rules row (removeCall map key) = .value (.map (Entries.erase k m)) := by
  have applied (a b : Outcome) : (Builtin.collection .mapRemove).apply rules [a, b] =
      .ofExcept (removeEntry (.collection .mapRemove) a b) := rfl
  have text : (Outcome.value (.string k)).string (.collection .mapRemove) = .ok k := rfl
  rw [removeCall, evaluate_application rfl, List.map_cons, List.map_cons, List.map_nil, hk, applied, removeEntry,
    hm.entries, text]
  rfl

theorem merge_read (f : Builtin) {maps : List Expr} {ms : List Fields} (h : List.Forall₂ (Holds rules row) maps ms)
    (entries : Fields) : merge f entries (maps.map (evaluate rules row)) = .ok (ms.foldl Entries.extend entries) := by
  induction h generalizing entries with
  | nil => rfl
  | cons holds _ ih =>
    rw [List.map_cons, merge, holds.entries]
    exact ih _

theorem evaluate_merge {maps : List Expr} {ms : List Fields} (h : List.Forall₂ (Holds rules row) maps ms)
    (nonempty : ms ≠ []) : evaluate rules row (mergeCall maps) = .value (.map (Entries.ofPairs ms.flatten)) := by
  have admitted : (Builtin.collection .mapMerge).arity.admits maps.length = true :=
    decide_eq_true (h.length_eq ▸ List.length_pos_iff.mpr nonempty)
  have applied (args : List Outcome) : (Builtin.collection .mapMerge).run rules args =
      .ofExcept ((merge (.collection .mapMerge) [] args).map .map) := rfl
  rw [mergeCall, evaluate_application rfl, Builtin.apply, List.length_map, if_pos admitted, applied, merge_read _ h,
    Entries.foldl_extend]
  rfl

theorem evaluate_map {pairs : List (Expr × Expr)} {entries : List (String × Option Value)}
    (h : pairs.map (fun p => (evaluate rules row p.1, evaluate rules row p.2)) =
      entries.map fun e => (.value (.string e.1), presence e.2)) :
    evaluate rules row (mapCall pairs) = .value (.map (Entries.ofPairs (present entries))) := by
  have admitted : (Builtin.collection .map).arity.admits (pairs.flatMap fun p => [p.1, p.2]).length = true := by
    have double : (pairs.flatMap fun p => [p.1, p.2]).length = pairs.length * 2 := by
      rw [List.length_flatMap]
      simp
    exact decide_eq_true (by omega)
  have applied (args : List Outcome) : (Builtin.collection .map).run rules args =
      .ofExcept ((CollectionFunction.pairs (.collection .map) args).map fun entries =>
        .map (Entries.ofPairs entries)) := rfl
  have operands : (pairs.flatMap fun p => [p.1, p.2]).map (evaluate rules row) =
      entries.flatMap fun e => [.value (.string e.1), presence e.2] := by
    have joined := congrArg (List.flatMap fun o : Outcome × Outcome => [o.1, o.2]) h
    rw [List.flatMap_map, List.flatMap_map] at joined
    rw [List.map_flatMap, ← joined]
    rfl
  rw [mapCall, evaluate_application rfl, Builtin.apply, List.length_map, if_pos admitted, applied, operands, pairs_read]
  rfl

/-- What is found in a map is what the call yields, in the engine and on the machine. -/
theorem evaluates_entry {found : Option Value} (hm : Holds rules row map m)
    (hk : evaluate rules row key = .value (.string k)) (h : Entries.find? k m = found) :
    Machine.Evaluates rules row (entryCall map key) (presence found) := by
  rw [Machine.evaluates_iff, evaluate_entry hm hk, h]

theorem evaluates_entry_of_mem {v : Value} (hm : Holds rules row map m)
    (hk : evaluate rules row key = .value (.string k)) (member : (k, v) ∈ m) :
    Machine.Evaluates rules row (entryCall map key) (.value v) :=
  evaluates_entry hm hk (Entries.find?_of_mem hm.distinct member)

theorem evaluates_entry_of_not_mem (hm : Holds rules row map m) (hk : evaluate rules row key = .value (.string k))
    (fresh : k ∉ Entries.keys m) : Machine.Evaluates rules row (entryCall map key) .absent :=
  evaluates_entry hm hk (Entries.find?_eq_none_iff.mpr fresh)

/-- A key finds its value, and nothing where it is missing. In maps that are merged it finds its value in the last one
that has it, and in a map that is built the last value given to it; either way the keys stand in the order of their first
occurrences. Once it is taken out nothing is found, and the other entries are as before. -/
theorem maps_by_key (rules : RegexRules) (row : Row) :
    let reads (e : Expr) (k : String) := evaluate rules row e = .value (.string k)
    let holds := Holds rules row
    let yields := Machine.Evaluates rules row
    let keys (m : Fields) := Entries.keys m
    (∀ map m key k, holds map m → reads key k →
        (∀ v, (k, v) ∈ m → yields (entryCall map key) (.value v)) ∧
          (k ∉ keys m → yields (entryCall map key) .absent)) ∧
      (∀ maps ms, List.Forall₂ holds maps ms → ms ≠ [] →
        (∃ merged, yields (mergeCall maps) (.value (.map merged)) ∧ keys merged = (ms.flatMap keys).eraseDups) ∧
          ∀ key k, reads key k →
            (∀ earlier m later v, ms = earlier ++ m :: later → (k, v) ∈ m → (∀ m' ∈ later, k ∉ keys m') →
              yields (entryCall (mergeCall maps) key) (.value v)) ∧
            ((∀ m ∈ ms, k ∉ keys m) → yields (entryCall (mergeCall maps) key) .absent)) ∧
      (∀ map m key k, holds map m → reads key k →
        (∃ rest, yields (removeCall map key) (.value (.map rest)) ∧ rest.Sublist m ∧ keys rest = (keys m).erase k) ∧
          ∀ other j, reads other j →
            (j = k → yields (entryCall (removeCall map key) other) .absent) ∧
            (j ≠ k → ∃ o, yields (entryCall (removeCall map key) other) o ∧ yields (entryCall map other) o)) ∧
      ∀ pairs entries, pairs.map (fun p => (evaluate rules row p.1, evaluate rules row p.2)) =
          entries.map (fun e : String × Option Value => (.value (.string e.1), e.2.elim .absent .value)) →
        (∃ built, yields (mapCall pairs) (.value (.map built)) ∧
            keys built = ((entries.filter (·.2.isSome)).map (·.1)).eraseDups) ∧
          ∀ key k, reads key k →
            (∀ before v after, entries = before ++ (k, some v) :: after → (∀ w, (k, some w) ∉ after) →
              yields (entryCall (mapCall pairs) key) (.value v)) ∧
            ((∀ w, (k, some w) ∉ entries) → yields (entryCall (mapCall pairs) key) .absent) := by
  intro reads holds yields keys
  have yields_of {e : Expr} {o : Outcome} (h : evaluate rules row e = o) : yields e o :=
    (Machine.evaluates_iff rules row).mpr h
  refine ⟨fun map m key k hm hk => ⟨fun v => evaluates_entry_of_mem hm hk, evaluates_entry_of_not_mem hm hk⟩,
    fun maps ms hms nonempty => ?merge, fun map m key k hm hk => ?remove, fun pairs entries hp => ?build⟩
  case merge =>
    have merged := evaluate_merge hms nonempty
    have hm : holds (mergeCall maps) (Entries.ofPairs ms.flatten) := .of_map merged (Entries.nodup_ofPairs _)
    constructor
    · refine ⟨_, yields_of merged, ?_⟩
      rw [← Entries.keys_flatten]
      exact Entries.keys_ofPairs _
    · intro key k hk
      constructor
      · rintro earlier m later v rfl member fresh
        have distinct := distinct_of_mem hms (List.mem_append_right earlier List.mem_cons_self)
        exact evaluates_entry hm hk (Entries.find?_ofPairs_flatten distinct member fresh)
      · intro fresh
        have missing := Entries.not_mem_keys_flatten fresh
        exact evaluates_entry_of_not_mem hm hk (mt Entries.mem_keys_ofPairs.mp missing)
  case remove =>
    have rest := evaluate_remove hm hk
    have hr : holds (removeCall map key) (Entries.erase k m) := .of_map rest (Entries.nodup_erase hm.distinct)
    constructor
    · exact ⟨_, yields_of rest, List.filter_sublist, Entries.keys_erase hm.distinct⟩
    · intro other j hj
      constructor
      · rintro rfl
        exact evaluates_entry hr hj ((Entries.find?_erase m).trans (if_pos rfl))
      · intro apart
        have kept := (Entries.find?_erase m).trans (if_neg apart.symm)
        exact ⟨_, evaluates_entry hr hj kept, evaluates_entry hm hj rfl⟩
  case build =>
    have built := evaluate_map hp
    have hb : holds (mapCall pairs) (Entries.ofPairs (present entries)) := .of_map built (Entries.nodup_ofPairs _)
    constructor
    · refine ⟨_, yields_of built, ?_⟩
      rw [← keys_present]
      exact Entries.keys_ofPairs _
    · intro key k hk
      constructor
      · rintro before v after rfl last
        have fresh : k ∉ Entries.keys (present after) := by
          intro member
          obtain ⟨w, later⟩ := mem_keys_present.mp member
          exact last w later
        rw [present_given] at hb
        exact evaluates_entry hb hk (Entries.find?_extend_last fresh)
      · intro none
        refine evaluates_entry_of_not_mem hb hk ?_
        rw [Entries.mem_keys_ofPairs, mem_keys_present]
        rintro ⟨w, given⟩
        exact none w given

/-- A vector and a map that has one of its keys; and pairs of one key twice and of another without a value. -/
theorem maps_by_key_of_repeated_keys :
    let row : Row := .ofFields [("v", .vector [.one]), ("m", .map [("value", .null), ("x", .integer 1)])]
    let vector : Expr := .field ⟨["v"]⟩
    let map : Expr := .field ⟨["m"]⟩
    let text (s : String) : Expr := .constant (.string s)
    let yields := Machine.Evaluates 0 row
    let merged := mergeCall [vector, map]
    let pairs := [(text "x", .constant .null), (text "y", .field ⟨["z"]⟩), (text "x", .constant (.boolean true))]
    let built := mapCall pairs
    List.Forall₂ (Holds 0 row) [vector, map] [Value.vectorEntries [.one], [("value", .null), ("x", .integer 1)]] ∧
      (∃ m, yields merged (.value (.map m)) ∧ Entries.keys m = ["__type__", "value", "x"]) ∧
      yields (entryCall merged (text "value")) (.value .null) ∧
      yields (entryCall merged (text "__type__")) (.value (.string "__vector__")) ∧
      yields (entryCall (removeCall map (text "value")) (text "value")) .absent ∧
      (∃ m, yields built (.value (.map m)) ∧ Entries.keys m = ["x"]) ∧
      yields (entryCall built (text "x")) (.value (.boolean true)) ∧ yields (entryCall built (text "y")) .absent := by
  intro row vector map text yields merged pairs built
  obtain ⟨_, merging, removing, building⟩ := maps_by_key 0 row
  have read_vector : Holds 0 row vector (Value.vectorEntries [.one]) := ⟨⟨_, rfl, rfl⟩, by decide⟩
  have read_map : Holds 0 row map [("value", .null), ("x", .integer 1)] := ⟨⟨_, rfl, rfl⟩, by decide⟩
  have both := List.Forall₂.cons read_vector (.cons read_map .nil)
  obtain ⟨⟨m, merges, order⟩, finds⟩ := merging _ _ both (by simp)
  obtain ⟨_, gone⟩ := removing map _ (text "value") "value" read_map rfl
  obtain ⟨⟨b, builds, places⟩, given⟩ :=
    building pairs [("x", some .null), ("y", none), ("x", some (.boolean true))] rfl
  refine ⟨both, ⟨m, merges, order⟩, ?_, ?_, (gone (text "value") "value" rfl).1 rfl, ⟨b, builds, places⟩, ?_, ?_⟩
  · exact (finds (text "value") "value" rfl).1 [_] _ [] _ rfl List.mem_cons_self (by simp)
  · exact (finds (text "__type__") "__type__" rfl).1 [] _ [_] _ rfl List.mem_cons_self (by decide)
  · exact (given (text "x") "x" rfl).1 [_, _] _ [] rfl (by simp)
  · exact (given (text "y") "y" rfl).2 (by simp)

end Calls
end CollectionFunction
end DocQuery
