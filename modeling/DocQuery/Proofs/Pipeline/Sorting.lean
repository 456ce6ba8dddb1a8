import DocQuery.Proofs.Pipeline.Rows
import DocQuery.Proofs.Sorting.Order
import DocQuery.Regex.Library

/-! Sorted rows. Values without an order make the comparison of rows intransitive; what holds of a sort even
then, and that it is the stable lexicographic sort wherever the values of different rows can be compared. -/
namespace DocQuery

namespace SortKey

/-- What a row has for a key, if anything. -/
def value? (rules : RegexRules) (k : SortKey) (row : Row) : Option Value := (evaluate rules row k.expr).value?

/-- How two rows compare at one key, undefined where their values have no order. -/
def compare? (rules : RegexRules) (k : SortKey) (a b : Row) : Option Ordering :=
  compareKey? k.direction (k.value? rules a) (k.value? rules b)

/-- Two rows can be compared at a key unless they have values for it that have no order. -/
def comparable (rules : RegexRules) (k : SortKey) (a b : Row) : Bool :=
  match k.value? rules a, k.value? rules b with
  | some v, some w => (v.compare? w).isSome
  | _, _ => true

/-- One row comes before the other at a key. What is missing comes last, in either direction. -/
def Precedes (rules : RegexRules) (k : SortKey) (a b : Row) : Prop :=
  match k.value? rules a, k.value? rules b with
  | some v, some w => k.direction.compare? v w = some .lt
  | some _, none => True
  | none, _ => False

/-- The rows have equal values for a key, or none of them has one. -/
def Ties (rules : RegexRules) (k : SortKey) (a b : Row) : Prop :=
  match k.value? rules a, k.value? rules b with
  | some v, some w => v.compare? w = some .eq
  | none, none => True
  | _, _ => False

end SortKey

namespace Row

/-- Whatever both rows have for a key can be compared. -/
def comparable (rules : RegexRules) (keys : List SortKey) (a b : Row) : Bool := keys.all fun k => k.comparable rules a b

/-- Rows without a document key come after all others. -/
def IdentityPrecedes (a b : Row) : Prop :=
  match a.key, b.key with
  | some j, some k => j.order k = .lt
  | some _, none => True
  | none, _ => False

/-- One row comes before the other by the first key that tells them apart, or else by document key. -/
inductive Precedes (rules : RegexRules) : List SortKey → Row → Row → Prop
  | here {k : SortKey} {keys : List SortKey} {a b : Row} : k.Precedes rules a b → Precedes rules (k :: keys) a b
  | later {k : SortKey} {keys : List SortKey} {a b : Row} : k.Ties rules a b → Precedes rules keys a b →
      Precedes rules (k :: keys) a b
  | identity {a b : Row} : a.IdentityPrecedes b → Precedes rules [] a b

/-- No key tells the rows apart, nor does their document key. -/
def Ties (rules : RegexRules) (keys : List SortKey) (a b : Row) : Prop := (∀ k ∈ keys, k.Ties rules a b) ∧ a.key = b.key

end Row

/-- The comparison that a sort goes by, which passes over values without an order. -/
def rowOrder (rules : RegexRules) (keys : List SortKey) (a b : Row) : Ordering :=
  KeyedRow.compare (keys.map (·.direction)) (keyedRow rules keys a) (keyedRow rules keys b)

/-- The same comparison, undefined where values have no order. -/
def rowOrder? (rules : RegexRules) : List SortKey → Row → Row → Option Ordering
  | [], a, b => some (compareIdentity a.key b.key)
  | k :: keys, a, b => ifTied (k.compare? rules a b) (rowOrder? rules keys a b)

section Comparison

variable {rules : RegexRules} {k : SortKey} {keys : List SortKey} {a b : Row}

theorem Value.compare?_mirrors (v : Value) : Mirrors Value.compare? v :=
  fun w => Form.compare?_mirrors v.form w.form

theorem Value.compare?_composes (v : Value) : Composes Value.compare? v :=
  fun w u => Form.compare?_composes v.form w.form u.form

theorem Direction.compare?_mirrors (d : Direction) (v : Value) : Mirrors d.compare? v := by
  intro w
  cases d with
  | ascending => exact v.compare?_mirrors w
  | descending =>
    have turned := w.compare?_mirrors v
    rw [compare?, compare?, turned]

theorem Direction.compare?_composes (d : Direction) (v : Value) : Composes d.compare? v := by
  intro w u
  cases d with
  | ascending => exact v.compare?_composes w u
  | descending =>
    intro o p first second ho hp
    have ends := u.compare?_composes w v p o second first hp ho
    rw [compare?, ends]
    cases o <;> cases p <;> first | rfl | contradiction

theorem compareKey?_mirrors (d : Direction) (x : Option Value) : Mirrors (compareKey? d) x := by
  intro y
  cases x with
  | none => cases y <;> rfl
  | some v =>
    cases y with
    | none => rfl
    | some w => exact d.compare?_mirrors v w

theorem compareKey?_composes (d : Direction) (x : Option Value) : Composes (compareKey? d) x := by
  intro y z o p first second ho hp
  cases x with
  | none =>
    cases y with
    | none =>
      cases Option.some.inj first
      exact second
    | some w =>
      cases Option.some.inj first
      contradiction
  | some v =>
    cases y with
    | none =>
      cases Option.some.inj first
      cases z with
      | none => rfl
      | some u =>
        cases Option.some.inj second
        contradiction
    | some w =>
      cases z with
      | none =>
        cases Option.some.inj second
        cases o with
        | lt | eq => rfl
        | gt => contradiction
      | some u => exact d.compare?_composes v w u o p first second ho hp

instance : Std.TransCmp compareIdentity where
  eq_swap {x y} := by
    cases x with
    | none => cases y <;> rfl
    | some j =>
      cases y with
      | none => rfl
      | some k => exact @Std.OrientedCmp.eq_swap _ DocumentKey.order _ j k
  isLE_trans {x y z} first second := by
    cases x with
    | none =>
      cases y with
      | none => exact second
      | some k => contradiction
    | some j =>
      cases z with
      | none => rfl
      | some l =>
        cases y with
        | none => contradiction
        | some k => exact @Std.TransCmp.isLE_trans _ DocumentKey.order _ j k l first second

instance : Std.LawfulEqCmp compareIdentity where
  eq_of_compare {x y} h := by
    cases x with
    | none =>
      cases y with
      | none => rfl
      | some k => contradiction
    | some j =>
      cases y with
      | none => contradiction
      | some k => exact congrArg some (@Std.LawfulEqCmp.eq_of_compare _ DocumentKey.order _ j k h)

theorem rowOrder_cons (rules : RegexRules) (k : SortKey) (keys : List SortKey) (a b : Row) :
    rowOrder rules (k :: keys) a b = ((k.compare? rules a b).getD .eq).then (rowOrder rules keys a b) := by
  have first : compareKeys ((k :: keys).map (·.direction)) (keyedRow rules (k :: keys) a).keys
      (keyedRow rules (k :: keys) b).keys = ((k.compare? rules a b).getD .eq).then
        (compareKeys (keys.map (·.direction)) (keyedRow rules keys a).keys (keyedRow rules keys b).keys) := by
    simp only [keyedRow, List.map_cons, compareKeys]
    have refold : compareKey? k.direction (evaluate rules a k.expr).value? (evaluate rules b k.expr).value? =
        k.compare? rules a b := rfl
    rw [refold]
    rcases k.compare? rules a b with _ | _ | _ | _ <;> rfl
  rw [rowOrder, KeyedRow.compare, first, Ordering.then_assoc]
  rfl

/-- Turning the rows around turns the comparison around, whatever their values are. -/
theorem rowOrder_swap (rules : RegexRules) (keys : List SortKey) (a b : Row) :
    rowOrder rules keys b a = (rowOrder rules keys a b).swap := by
  induction keys with
  | nil => exact @Std.OrientedCmp.eq_swap _ compareIdentity _ b.key a.key
  | cons k keys ih =>
    have turned : k.compare? rules b a = (k.compare? rules a b).map Ordering.swap :=
      compareKey?_mirrors k.direction _ _
    rw [rowOrder_cons, rowOrder_cons, turned, ih, Ordering.swap_then]
    cases k.compare? rules a b <;> rfl

theorem rowOrder?_composes (rules : RegexRules) (keys : List SortKey) (a : Row) :
    Composes (rowOrder? rules keys) a := by
  intro b c
  induction keys with
  | nil => exact @Composes.of_trans _ compareIdentity _ a.key b.key c.key
  | cons k keys ih =>
    have first : Chains (k.compare? rules a b) (k.compare? rules b c) (k.compare? rules a c) :=
      compareKey?_composes k.direction _ _ _
    exact first.ifTied ih

theorem SortKey.comparable_iff : k.comparable rules a b ↔ k.compare? rules a b ≠ none := by
  rw [comparable, compare?]
  cases k.value? rules a with
  | none => cases k.value? rules b <;> simp [compareKey?]
  | some v =>
    cases k.value? rules b with
    | none => simp [compareKey?]
    | some w =>
      cases k.direction with
      | ascending => simp [compareKey?, Direction.compare?, Option.isSome_iff_ne_none]
      | descending => simp [compareKey?, Direction.compare?, v.compare?_mirrors w, Option.isSome_iff_ne_none]

theorem Row.comparable_iff : a.comparable rules keys b ↔ ∀ k ∈ keys, k.compare? rules a b ≠ none := by
  simp only [comparable, List.all_eq_true, SortKey.comparable_iff]

theorem rowOrder?_of_comparable (h : a.comparable rules keys b) :
    rowOrder? rules keys a b = some (rowOrder rules keys a b) := by
  rw [Row.comparable_iff] at h
  induction keys with
  | nil => rfl
  | cons k keys ih =>
    rw [rowOrder?, rowOrder_cons, ih fun l hl => h l (List.mem_cons_of_mem k hl)]
    cases found : k.compare? rules a b with
    | none => exact absurd found (h k List.mem_cons_self)
    | some o => cases o <;> rfl

theorem SortKey.precedes_iff : k.Precedes rules a b ↔ k.compare? rules a b = some .lt := by
  rw [Precedes, compare?]
  cases k.value? rules a with
  | none => cases k.value? rules b <;> simp [compareKey?]
  | some v => cases k.value? rules b <;> simp [compareKey?]

theorem SortKey.ties_iff : k.Ties rules a b ↔ k.compare? rules a b = some .eq := by
  rw [Ties, compare?]
  cases k.value? rules a with
  | none => cases k.value? rules b <;> simp [compareKey?]
  | some v =>
    cases k.value? rules b with
    | none => simp [compareKey?]
    | some w =>
      cases k.direction with
      | ascending => simp [compareKey?, Direction.compare?]
      | descending =>
        simp only [compareKey?, Direction.compare?, v.compare?_mirrors w]
        cases v.compare? w <;> simp

theorem Row.identityPrecedes_iff : a.IdentityPrecedes b ↔ compareIdentity a.key b.key = .lt := by
  rw [IdentityPrecedes]
  cases a.key <;> cases b.key <;> simp [compareIdentity]

theorem Row.precedes_or_ties (h : a.comparable rules keys b) (le : (rowOrder rules keys a b).isLE) :
    a.Precedes rules keys b ∨ a.Ties rules keys b := by
  rw [comparable_iff] at h
  induction keys with
  | nil =>
    cases same : compareIdentity a.key b.key with
    | lt => exact .inl (.identity (identityPrecedes_iff.mpr same))
    | eq => exact .inr ⟨by simp, Std.LawfulEqCmp.eq_of_compare same⟩
    | gt =>
      change (compareIdentity a.key b.key).isLE at le
      simp [same] at le
  | cons k keys ih =>
    rw [rowOrder_cons] at le
    cases found : k.compare? rules a b with
    | none => exact absurd found (h k List.mem_cons_self)
    | some o =>
      rw [found] at le
      cases o with
      | lt => exact .inl (.here (SortKey.precedes_iff.mpr found))
      | gt => contradiction
      | eq =>
        have tie := SortKey.ties_iff.mpr found
        rcases ih (fun l hl => h l (List.mem_cons_of_mem k hl)) le with before | ⟨ties, identity⟩
        · exact .inl (.later tie before)
        · exact .inr ⟨List.forall_mem_cons.mpr ⟨tie, ties⟩, identity⟩

theorem rowOrder_of_ties (h : a.Ties rules keys b) : rowOrder rules keys a b = .eq := by
  obtain ⟨ties, identity⟩ := h
  induction keys with
  | nil =>
    change compareIdentity a.key b.key = .eq
    rw [identity]
    exact Std.ReflCmp.compare_self
  | cons k keys ih =>
    have parts := List.forall_mem_cons.mp ties
    rw [rowOrder_cons, SortKey.ties_iff.mp parts.1, ih parts.2]
    rfl

theorem rowOrder_self (rules : RegexRules) (keys : List SortKey) (a : Row) : rowOrder rules keys a a = .eq := by
  have turned := rowOrder_swap rules keys a a
  cases o : rowOrder rules keys a a with
  | eq => rfl
  | lt | gt => simp [o] at turned

theorem Row.comparable_symm (h : a.comparable rules keys b) : b.comparable rules keys a := by
  rw [comparable_iff] at h ⊢
  intro k hk
  have turned : k.compare? rules b a = (k.compare? rules a b).map Ordering.swap :=
    compareKey?_mirrors k.direction _ _
  simpa [turned] using h k hk

/-- A missing value decides at the first key. -/
theorem rowOrder_of_missing (keys : List SortKey) (ha : k.value? rules a ≠ none) (hb : k.value? rules b = none) :
    rowOrder rules (k :: keys) a b = .lt := by
  obtain ⟨v, hv⟩ := Option.ne_none_iff_exists'.mp ha
  rw [rowOrder_cons, SortKey.compare?, hv, hb]
  rfl

end Comparison

section Sorted

variable (rules : RegexRules) (keys : List SortKey) (rows : List Row)

theorem sortRows_eq : (sortRows rules keys rows).value =
    mergeHalves (fun a b => rowOrder rules keys a b == .lt) rows := by
  have keyed : (sortKeyed (keys.map (·.direction)) (rows.map (keyedRow rules keys))).map (·.row) =
      mergeHalves (fun a b => rowOrder rules keys a b == .lt) ((rows.map (keyedRow rules keys)).map (·.row)) := by
    refine mergeHalves_map fun x hx y hy => ?_
    obtain ⟨a, _, rfl⟩ := List.mem_map.mp hx
    obtain ⟨b, _, rfl⟩ := List.mem_map.mp hy
    rfl
  rw [sortRows_value, keyed, List.map_map]
  exact congrArg _ (List.map_id rows)

/-- Whatever the values are, a sort keeps the rows, leaves no neighbours that the comparison would have the
other way round, and puts rows without a value for the first key behind all others. -/
theorem sortRows_of_any_values :
    (sortRows rules keys rows).value.Perm rows ∧
      ((sortRows rules keys rows).value.IsChain fun a b => rowOrder rules keys b a ≠ .lt) ∧
      ∀ first others, keys = first :: others → (sortRows rules keys rows).value.Pairwise fun a b =>
        first.value? rules a = none → first.value? rules b = none := by
  rw [sortRows_eq]
  refine ⟨mergeHalves_perm _ rows, ?_, ?_⟩
  · have asymm (a b : Row) (h : (rowOrder rules keys a b == .lt) = true) :
        ¬ (rowOrder rules keys b a == .lt) = true := by
      rw [beq_iff_eq] at h
      simp [rowOrder_swap rules keys a b, h]
    simpa using mergeHalves_isChain asymm rows
  · rintro first others rfl
    refine mergeHalves_pairwise (fun _ _ _ hab hbc ha => hbc (hab ha)) (fun a b stays ha => ?_)
      (fun a b turns ha => ?_) rows
    · by_contra hb
      exact stays (by simp [rowOrder_of_missing others hb ha])
    · by_contra hb
      have after := rowOrder_swap rules (first :: others) b a
      rw [rowOrder_of_missing others hb ha] at after
      simp [after] at turns

/-- Numbers and a string whose comparisons, the second and the first by document key, run in a circle. -/
theorem sortRows_of_circular_values :
    let row (key : DocumentKey) (v : Value) : Row := ⟨some key, none, none, [("age", v)]⟩
    let a := row ⟨⟨["shop", "a"]⟩, by decide⟩ (.integer 2)
    let b := row ⟨⟨["shop", "b"]⟩, by decide⟩ (.string "m")
    let c := row ⟨⟨["shop", "c"]⟩, by decide⟩ (.integer 1)
    let keys : List SortKey := [⟨.field ⟨["age"]⟩, .ascending⟩]
    let sorted := (sortRows 100 keys [a, b, c, .ofFields []]).value
    rowOrder 100 keys a b = .lt ∧ rowOrder 100 keys b c = .lt ∧ rowOrder 100 keys c a = .lt ∧
      sorted.Perm [a, b, c, .ofFields []] ∧ (sorted.IsChain fun a b => rowOrder 100 keys b a ≠ .lt) ∧
      sorted.Pairwise fun a b => keys[0].value? 100 a = none → keys[0].value? 100 b = none := by
  intro row a b c keys sorted
  have sort := sortRows_of_any_values 100 keys [a, b, c, .ofFields []]
  exact ⟨by decide +kernel, by decide +kernel, by decide +kernel, sort.1, sort.2.1, sort.2.2 _ [] rfl⟩

variable {rules keys rows}

/-- Rows whose values can be compared are totally preordered. A row need not be comparable with itself. -/
theorem transCmp_rowOrder (h : rows.Pairwise fun a b => a.comparable rules keys b) :
    Std.TransCmp fun a b : { row // row ∈ rows } => rowOrder rules keys a.1 b.1 where
  eq_swap {a b} := rowOrder_swap rules keys b.1 a.1
  isLE_trans {a b c} ab bc := by
    have : Std.Symm fun a b : Row => a.comparable rules keys b = true := ⟨fun _ _ => Row.comparable_symm⟩
    have related (x y : { row // row ∈ rows }) (ne : x ≠ y) : x.1.comparable rules keys y.1 :=
      h.forall x.2 y.2 (Subtype.coe_ne_coe.mpr ne)
    by_cases hab : a = b
    · exact hab ▸ bc
    by_cases hbc : b = c
    · exact hbc ▸ ab
    by_cases hac : a = c
    · rw [hac, rowOrder_self]
      rfl
    have chain := rowOrder?_composes rules keys a.1 b.1 c.1 _ _ (rowOrder?_of_comparable (related a b hab))
      (rowOrder?_of_comparable (related b c hbc)) ab bc
    rw [rowOrder?_of_comparable (related a c hac), Option.some.injEq] at chain
    rw [chain]
    cases o : rowOrder rules keys a.1 b.1 with
    | lt => rfl
    | eq => exact bc
    | gt => simp [o] at ab

/-- The sort of rows as members of a list that they are taken from. -/
theorem sortRows_map_val (members : List { row // row ∈ rows }) :
    (sortRows rules keys (members.map (·.1))).value =
      (mergeHalves (fun a b : { row // row ∈ rows } => rowOrder rules keys a.1 b.1 == .lt) members).map (·.1) := by
  have sorted : (mergeHalves (fun a b : { row // row ∈ rows } => rowOrder rules keys a.1 b.1 == .lt) members).map
      (·.1) = mergeHalves (fun a b => rowOrder rules keys a b == .lt) (members.map (·.1)) :=
    mergeHalves_map fun _ _ _ _ => rfl
  rw [sortRows_eq, sorted]

/-- The sort of the rows as members of their list. -/
theorem sortRows_attach : (sortRows rules keys rows).value = (mergeHalves (fun a b : { row // row ∈ rows } =>
    rowOrder rules keys a.1 b.1 == .lt) rows.attach).map (·.1) := by
  rw [← sortRows_map_val, List.attach_map_subtype_val]

theorem sortRows_pairwise (h : rows.Pairwise fun a b => a.comparable rules keys b) :
    (sortRows rules keys rows).value.Pairwise fun a b => (rowOrder rules keys a b).isLE := by
  have := transCmp_rowOrder h
  rw [sortRows_attach, List.pairwise_map]
  exact mergeHalves_sorted rows.attach

theorem sortRows_stable {ties : List Row} (h : rows.Pairwise fun a b => a.comparable rules keys b)
    (listed : ties.Sublist rows) (tied : ties.Pairwise (Row.Ties rules keys)) :
    ties.Sublist (sortRows rules keys rows).value := by
  have := transCmp_rowOrder h
  rw [← List.attach_map_subtype_val rows, List.sublist_map_iff] at listed
  obtain ⟨members, listed, rfl⟩ := listed
  rw [sortRows_attach]
  refine List.Sublist.map _ (mergeHalves_stable listed ?_)
  exact (List.pairwise_map.mp tied).imp rowOrder_of_ties

/-- Where the values of different rows can be compared, a sort is the stable lexicographic one: every row
comes before those behind it or ties with them, ties stay as they came, and a second sort has nothing to do. -/
theorem sortRows_of_comparable (h : rows.Pairwise fun a b => a.comparable rules keys b) :
    let sorted := (sortRows rules keys rows).value
    sorted.Perm rows ∧ (sorted.Pairwise fun a b => a.Precedes rules keys b ∨ a.Ties rules keys b) ∧
      (∀ ties : List Row, ties.Sublist rows → ties.Pairwise (Row.Ties rules keys) → ties.Sublist sorted) ∧
      (sortRows rules keys sorted).value = sorted := by
  intro sorted
  have perm : sorted.Perm rows := by
    have sort : sorted = mergeHalves _ rows := sortRows_eq rules keys rows
    exact sort ▸ mergeHalves_perm _ rows
  have ordered : sorted.Pairwise fun a b => (rowOrder rules keys a b).isLE := sortRows_pairwise h
  have comparable : sorted.Pairwise fun a b => a.comparable rules keys b :=
    (perm.pairwise_iff Row.comparable_symm).mpr h
  refine ⟨perm, ?_, fun ties => sortRows_stable h, ?_⟩
  · exact (comparable.and ordered).imp fun both => Row.precedes_or_ties both.1 both.2
  · rw [sortRows_eq]
    refine mergeHalves_of_pairwise (ordered.imp fun {a b} le => ?_)
    rw [rowOrder_swap rules keys a b]
    cases o : rowOrder rules keys a b <;> simp_all

/-- A NaN behind an item that decides, two spellings of a number, rows without documents and a missing value. -/
theorem sortRows_of_comparable_arrays :
    let row (key : Option DocumentKey) (items : List Value) : Row := ⟨key, none, none, [("age", .array items)]⟩
    let keys : List SortKey := [⟨.field ⟨["age"]⟩, .descending⟩]
    let rows := [row none [.double (.ofBits 0x4000000000000000)], .ofFields [], row none [.integer 2],
      row (some ⟨⟨["shop", "b"]⟩, by decide⟩) [.integer 1, .double .nan],
      row (some ⟨⟨["shop", "a"]⟩, by decide⟩) [.integer 2]]
    let sorted := (sortRows 100 keys rows).value
    (rows.Pairwise fun a b => a.comparable 100 keys b) ∧ sorted.Perm rows ∧
      (sorted.Pairwise fun a b => a.Precedes 100 keys b ∨ a.Ties 100 keys b) ∧
      (∀ ties : List Row, ties.Sublist rows → ties.Pairwise (Row.Ties 100 keys) → ties.Sublist sorted) ∧
      (sortRows 100 keys sorted).value = sorted := by
  intro row keys rows sorted
  have comparable : rows.Pairwise fun a b => a.comparable 100 keys b := by decide +kernel
  exact ⟨comparable, sortRows_of_comparable comparable⟩

end Sorted
end DocQuery
