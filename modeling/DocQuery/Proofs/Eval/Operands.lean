import DocQuery.Eval.Demand
import Mathlib.Data.List.Basic

/-! How many operands, from the left, decide a function of all of them. Each family of functions counts as many as it
reads before its result is settled. -/
namespace DocQuery

/-- As many operands, from the left, as a count of them says decide a function of all of them and the count. -/
def Decides (count : List Outcome → Nat) (g : List Outcome → β) : Prop :=
  ∀ ⦃os os' : List Outcome⦄, os.length = os'.length → os.take (count os) = os'.take (count os) →
    count os = count os' ∧ g os = g os'

/-- The operands before one decide whether that one is counted. -/
theorem Decides.lt_iff {count : List Outcome → Nat} {g : List Outcome → β} (decides : Decides count g)
    {os os' : List Outcome} (length : os.length = os'.length) {i : Nat}
    (same : ∀ j < i, j < count os → os[j]? = os'[j]?) : i < count os ↔ i < count os' := by
  have take_eq {n : Nat} (least : n ≤ i) (counted : n ≤ count os) : os.take n = os'.take n := by
    refine List.ext_getElem? fun j => ?_
    rw [List.getElem?_take, List.getElem?_take]
    split
    case isTrue inside => exact same j (by omega) (by omega)
    case isFalse => rfl
  by_cases counted : i < count os
  · refine iff_of_true counted (Nat.lt_of_not_le fun fewer => ?_)
    have equal := (decides length.symm (take_eq (n := count os') (by omega) (by omega)).symm).1
    omega
  · rw [(decides length (take_eq (by omega) (Nat.le_refl _))).1]

theorem decides_of_all {count : List Outcome → Nat} (g : List Outcome → β) (all : ∀ os, count os = os.length) :
    Decides count g := by
  intro os os' length same
  rw [all, List.take_length, length, List.take_length] at same
  rw [same]
  exact ⟨rfl, rfl⟩

section SameUpTo

variable {settles : Outcome → Bool} {os os' : List Outcome} {a b c a' b' c' : Outcome}

/-- Operands that are the same up to the first that settles a question, itself included. -/
inductive SameUpTo (settles : Outcome → Bool) : List Outcome → List Outcome → Prop
  | nil : SameUpTo settles [] []
  | settled {o rest rest'} : settles o = true → rest.length = rest'.length →
      SameUpTo settles (o :: rest) (o :: rest')
  | step {o rest rest'} : settles o = false → SameUpTo settles rest rest' →
      SameUpTo settles (o :: rest) (o :: rest')

theorem SameUpTo.of_take (length : os.length = os'.length)
    (same : os.take (countUpTo settles os) = os'.take (countUpTo settles os)) : SameUpTo settles os os' := by
  induction os generalizing os' with
  | nil =>
    rw [List.eq_nil_of_length_eq_zero length.symm]
    exact .nil
  | cons o os ih =>
    obtain ⟨o', os', rfl⟩ := List.exists_cons_of_length_eq_add_one length.symm
    rw [List.length_cons, List.length_cons, Nat.succ_inj] at length
    rw [countUpTo] at same
    by_cases settled : settles o = true
    · rw [if_pos settled, List.take_succ_cons, List.take_succ_cons, List.cons.injEq] at same
      exact same.1 ▸ .settled settled length
    · rw [if_neg settled, Nat.add_comm, List.take_succ_cons, List.take_succ_cons, List.cons.injEq] at same
      exact same.1 ▸ .step (by simpa using settled) (ih length same.2)

theorem SameUpTo.length_eq (same : SameUpTo settles os os') : os.length = os'.length := by
  induction same with
  | nil => rfl
  | settled _ equal => rw [List.length_cons, List.length_cons, equal]
  | step _ _ ih => rw [List.length_cons, List.length_cons, ih]

theorem SameUpTo.countUpTo_eq (same : SameUpTo settles os os') : countUpTo settles os = countUpTo settles os' := by
  induction same with
  | nil => rfl
  | settled settles => rw [countUpTo, countUpTo, if_pos settles, if_pos settles]
  | step other _ ih => rw [countUpTo, countUpTo, ih]

theorem decides_of_sameUpTo {g : List Outcome → β} (congr : ∀ ⦃os os'⦄, SameUpTo settles os os' → g os = g os') :
    Decides (countUpTo settles) g := by
  intro os os' length same
  have upTo := SameUpTo.of_take length same
  exact ⟨upTo.countUpTo_eq, congr upTo⟩

theorem SameUpTo.eq_of_length_one (same : SameUpTo settles os os') (length : os.length = 1) : os = os' := by
  obtain ⟨a, rfl⟩ := List.length_eq_one_iff.mp length
  cases same with
  | settled _ rest => rw [List.eq_nil_of_length_eq_zero rest.symm]
  | step _ rest =>
    cases rest
    rfl

theorem SameUpTo.exists_of_length_two (same : SameUpTo settles os os') (length : os.length = 2) :
    ∃ a b b', os = [a, b] ∧ os' = [a, b'] ∧ (settles a = true ∨ b = b') := by
  cases same with
  | nil => contradiction
  | @settled a rest rest' settles equal =>
    obtain ⟨b, rfl⟩ := List.length_eq_one_iff.mp (Nat.succ_inj.mp length)
    obtain ⟨b', rfl⟩ := List.length_eq_one_iff.mp equal.symm
    exact ⟨a, b, b', rfl, rfl, .inl settles⟩
  | @step a rest rest' _ same =>
    obtain rfl := same.eq_of_length_one (Nat.succ_inj.mp length)
    obtain ⟨b, rfl⟩ := List.length_eq_one_iff.mp (Nat.succ_inj.mp length)
    exact ⟨a, b, b, rfl, rfl, .inr rfl⟩

theorem SameUpTo.exists_of_length_three (same : SameUpTo settles os os') (length : os.length = 3) :
    ∃ a b b' c c', os = [a, b, c] ∧ os' = [a, b', c'] ∧
      (settles a = true ∨ b = b' ∧ (settles b = true ∨ c = c')) := by
  cases same with
  | nil => contradiction
  | @settled a rest rest' settles equal =>
    obtain ⟨b, c, rfl⟩ := List.length_eq_two.mp (Nat.succ_inj.mp length)
    obtain ⟨b', c', rfl⟩ := List.length_eq_two.mp equal.symm
    exact ⟨a, b, b', c, c', rfl, rfl, .inl settles⟩
  | @step a rest rest' _ same =>
    obtain ⟨b, c, c', rfl, rfl, last⟩ := same.exists_of_length_two (Nat.succ_inj.mp length)
    exact ⟨a, b, b, c, c', rfl, rfl, .inr ⟨rfl, last⟩⟩

end SameUpTo

section Reading

variable {α β γ δ : Type} {a b b' : Outcome}

/-- A failure comes before whatever would follow. -/
theorem bind_of_fails {x : Except EvalError α} (failed : fails x = true) (g h : α → Except EvalError β) :
    x >>= g = x >>= h := by
  cases x with
  | ok => contradiction
  | error => rfl

/-- A function that reads one operand before another one has to look at the second if the first can be read. -/
theorem congr_of_read {read : Outcome → Except EvalError α} {g : Outcome → Except EvalError β}
    (reads : ∃ k : α → Outcome → Except EvalError β, ∀ b, g b = read a >>= fun x => k x b)
    (decided : fails (read a) = true ∨ b = b') : g b = g b' := by
  obtain ⟨k, reads⟩ := reads
  rcases decided with failed | rfl
  · rw [reads, reads]
    exact bind_of_fails failed _ _
  · rfl

theorem congr_of_read_both {read : Outcome → Except EvalError α} {read' : Outcome → Except EvalError γ}
    {g : Outcome → δ → Except EvalError β} {c c' : δ}
    (reads : ∃ k : α → γ → δ → Except EvalError β, ∀ b c, g b c = read a >>= fun x => read' b >>= fun y => k x y c)
    (decided : fails (read a) = true ∨ b = b' ∧ (fails (read' b) = true ∨ c = c')) : g b c = g b' c' := by
  obtain ⟨k, reads⟩ := reads
  rw [reads, reads]
  rcases decided with failed | ⟨rfl, failed | rfl⟩
  · exact bind_of_fails failed _ _
  · exact bind_congr fun _ => bind_of_fails failed _ _
  · rfl

theorem not_readsString (f : Builtin) : (!f.readsString ·) = fun o => fails (o.string f) :=
  funext fun _ => Bool.not_not _

end Reading

section Families

variable {os os' : List Outcome}

theorem Connective.dominated_congr {dominant : Bool} (f : Builtin) (fault : Option EvalError)
    (same : SameUpTo (truthIs dominant) os os') :
    dominated f dominant fault os = dominated f dominant fault os' := by
  induction same generalizing fault with
  | nil => rfl
  | @settled o _ _ settles _ =>
    have truth : o.truth f = .ok dominant := by
      unfold truthIs at settles
      split at settles
      case h_1 b => rw [Outcome.truth, beq_iff_eq.mp settles]
      case h_2 => contradiction
    rw [dominated, dominated, truth]
    simp only [if_pos]
  | @step o _ _ _ _ ih =>
    rw [dominated, dominated]
    cases o.truth f with
    | ok b => simp only [ih]
    | error e => exact ih _

theorem Connective.parity_congr (f : Builtin) (odd : Bool) (same : SameUpTo (!isBoolean ·) os os') :
    parity f odd os = parity f odd os' := by
  induction same generalizing odd with
  | nil => rfl
  | @settled o _ _ settles _ =>
    rw [parity, parity]
    cases truth : o.truth f with
    | ok b =>
      unfold Outcome.truth at truth
      split at truth <;> simp_all [isBoolean]
    | error e => rfl
  | @step o _ _ _ _ ih =>
    rw [parity, parity]
    cases o.truth f with
    | ok b => exact ih _
    | error e => rfl

theorem presentValues_congr (same : SameUpTo Outcome.isError os os') : presentValues os = presentValues os' := by
  induction same with
  | nil => rfl
  | @settled o _ _ settles _ =>
    cases o with
    | error e => rfl
    | _ => contradiction
  | @step o _ _ _ _ ih => cases o <;> simp only [presentValues, ih]

theorem candidates_congr (same : SameUpTo Outcome.isError os os') : candidates os = candidates os' := by
  have several := presentValues_congr same
  cases same with
  | nil => rfl
  | @settled o rest rest' _ length =>
    cases rest with
    | nil => rw [List.eq_nil_of_length_eq_zero length.symm]
    | cons =>
      obtain ⟨_, _, rfl⟩ := List.exists_cons_of_length_eq_add_one length.symm
      simp only [candidates, several]
  | step _ rest =>
    cases rest with
    | nil => rfl
    | _ => simp only [candidates, several]

theorem Membership.apply_congr {m : Membership} (search : Outcome) (same : SameUpTo Outcome.isError os os') :
    m.apply search os = m.apply search os' := by
  unfold apply
  rw [candidates_congr same]

theorem Containment.severalInArray_congr {c : Containment} (array : Outcome)
    (same : SameUpTo Outcome.isError os os') : c.severalInArray array os = c.severalInArray array os' := by
  unfold severalInArray
  rw [candidates_congr same]

theorem collectItems_congr (same : SameUpTo (!hasValue ·) os os') : collectItems os = collectItems os' := by
  induction same with
  | nil => rfl
  | @settled o _ _ settles _ =>
    cases o with
    | value => contradiction
    | _ => rfl
  | @step o _ _ _ _ ih => cases o <;> simp only [collectItems, ih]

theorem TextFunction.join_congr {f : Builtin} (same : SameUpTo (!f.readsString ·) os os') :
    join f os = join f os' := by
  induction same with
  | nil => rfl
  | settled settles _ => exact bind_of_fails (by simpa [Builtin.readsString] using settles) _ _
  | step _ _ ih => rw [join, join, ih]

theorem CollectionFunction.join_congr {f : Builtin} (same : SameUpTo (fun o => fails (o.array f)) os os') :
    join f os = join f os' := by
  induction same with
  | nil => rfl
  | settled settles _ => exact bind_of_fails settles _ _
  | step _ _ ih => rw [join, join, ih]

theorem CollectionFunction.merge_congr {f : Builtin} (entries : Fields)
    (same : SameUpTo (fun o => fails (o.entries f)) os os') : merge f entries os = merge f entries os' := by
  induction same generalizing entries with
  | nil => rfl
  | settled settles _ => exact bind_of_fails settles _ _
  | step _ _ ih => simp only [merge, ih]

variable {a b c b' c' : Outcome}

theorem Arithmetic.binary_congr {op : Arithmetic}
    (decided : fails (a.number (.arithmetic op)) = true ∨ b = b') : op.binary a b = op.binary a b' :=
  congr_of_read ⟨_, fun _ => rfl⟩ decided

theorem TextFunction.search_congr {f : Builtin} (found : List Char → List Char → Bool)
    (decided : fails (a.string f) = true ∨ b = b') : search f found a b = search f found a b' :=
  congr_of_read ⟨_, fun _ => rfl⟩ decided

theorem TextFunction.replace_congr {f : Builtin} (times : Option Nat)
    (decided : fails (a.string f) = true ∨ b = b' ∧ (fails (b.string f) = true ∨ c = c')) :
    replace f times a b c = replace f times a b' c' :=
  congr_of_read_both ⟨_, fun _ _ => rfl⟩ decided

theorem TextFunction.cut_congr {f : Builtin} {length length' : Option Outcome}
    (decided : fails (a.string f) = true ∨ b = b' ∧ (fails (b.integer f) = true ∨ length = length')) :
    cut f a b length = cut f a b' length' :=
  congr_of_read_both ⟨_, fun _ _ => rfl⟩ decided

theorem PatternTest.apply_congr {p : PatternTest} (rules : RegexRules)
    (decided : fails (a.string (.pattern p)) = true ∨ b = b') : p.apply rules a b = p.apply rules a b' :=
  congr_of_read ⟨_, fun _ => rfl⟩ decided

theorem CollectionFunction.getItem_congr {f : Builtin} (decided : fails (a.array f) = true ∨ b = b') :
    getItem f a b = getItem f a b' :=
  congr_of_read ⟨_, fun _ => rfl⟩ decided

theorem CollectionFunction.getEntry_congr {f : Builtin} (decided : fails (a.entries f) = true ∨ b = b') :
    getEntry f a b = getEntry f a b' := by
  rcases decided with failed | rfl
  · cases read : a.entries f with
    | ok => simp [read, fails] at failed
    | error e => simp only [getEntry, read, bind, Except.bind]
  · rfl

theorem CollectionFunction.removeEntry_congr {f : Builtin} (decided : fails (a.entries f) = true ∨ b = b') :
    removeEntry f a b = removeEntry f a b' :=
  congr_of_read ⟨_, fun _ => rfl⟩ decided

theorem VectorFunction.distance_congr {v : VectorFunction}
    (decided : fails (a.vector (.vector v)) = true ∨ b = b') : v.distance a b = v.distance a b' :=
  congr_of_read ⟨_, fun _ => rfl⟩ decided

theorem TimeFunction.shift_congr {f : Builtin} (sign : Int)
    (decided : fails (a.timestamp f) = true ∨ b = b' ∧ (fails (b.string f) = true ∨ c = c')) :
    shift f sign a b c = shift f sign a b' c' :=
  congr_of_read_both ⟨_, fun _ _ => rfl⟩ decided

end Families

section Folds

variable {op : Arithmetic}

theorem Arithmetic.foldFrom_append (total : Number) (os more : List Outcome) :
    foldFrom op total (os ++ more) = foldFrom op total os >>= fun total => foldFrom op total more := by
  induction os generalizing total with
  | nil => rfl
  | cons o os ih => simp only [List.cons_append, foldFrom, ih, bind_assoc]

theorem Arithmetic.fold_append (first : Outcome) (rest more : List Outcome) :
    fold op (first :: (rest ++ more)) = fold op (first :: rest) >>= fun total => foldFrom op total more := by
  simp only [fold, foldFrom_append, bind_assoc]

/-- The operands that are folded are the fewest with a failing fold, or all there are. -/
theorem countFolded_cons (op : Arithmetic) (first : Outcome) (rest : List Outcome) :
    ∃ n ≤ rest.length, countFolded op (first :: rest) = n + 1 ∧
      (∀ m < n, fails (Arithmetic.fold op (first :: rest.take m)) = false) ∧
      (n < rest.length → fails (Arithmetic.fold op (first :: rest.take n)) = true) := by
  let failing := fun n => fails (Arithmetic.fold op (first :: rest.take n))
  refine ⟨(List.range rest.length).findIdx failing, ?_, Nat.add_comm _ _, fun m less => ?_, fun inside => ?_⟩
  · have bound : (List.range rest.length).findIdx failing ≤ (List.range rest.length).length := List.findIdx_le_length
    simpa using bound
  · simpa [failing] using List.not_of_lt_findIdx less
  · have found : (List.range rest.length).findIdx failing < (List.range rest.length).length := by simpa using inside
    simpa [failing] using List.findIdx_getElem (w := found)

theorem countFolded_decides (op : Arithmetic) : Decides (countFolded op) (Arithmetic.fold op) := by
  intro os os' length same
  cases os with
  | nil =>
    rw [List.eq_nil_of_length_eq_zero length.symm]
    exact ⟨rfl, rfl⟩
  | cons first rest =>
    obtain ⟨first', rest', rfl⟩ := List.exists_cons_of_length_eq_add_one length.symm
    rw [List.length_cons, List.length_cons, Nat.succ_inj] at length
    obtain ⟨n, le, count, before, at_n⟩ := countFolded_cons op first rest
    obtain ⟨n', le', count', before', at_n'⟩ := countFolded_cons op first' rest'
    rw [count, List.take_succ_cons, List.take_succ_cons, List.cons.injEq] at same
    obtain ⟨rfl, same⟩ := same
    have shorter {m : Nat} (h : m ≤ n) : rest.take m = rest'.take m := by
      simpa [List.take_take, Nat.min_eq_left h] using congrArg (List.take m) same
    have equal : n = n' := by
      rcases Nat.lt_trichotomy n n' with less | equal | less
      · have ok := before' n less
        rw [← shorter (Nat.le_refl n), at_n (by omega)] at ok
        contradiction
      · exact equal
      · have ok := before n' less
        rw [shorter (by omega), at_n' (by omega)] at ok
        contradiction
    refine ⟨by rw [count, count', equal], ?_⟩
    rcases Nat.lt_or_eq_of_le le with inside | all
    · rw [← List.take_append_drop n rest, ← List.take_append_drop n rest', ← same,
        Arithmetic.fold_append, Arithmetic.fold_append]
      exact bind_of_fails (at_n inside) _ _
    · rw [all, List.take_length, length, List.take_length] at same
      rw [same]

end Folds

theorem countPairs_decides (f : Builtin) : Decides (countPairs f) (CollectionFunction.pairs f) := by
  intro os
  induction os using countPairs.induct f with
  | case1 key value rest failed =>
    intro os' length same
    obtain ⟨key', os', rfl⟩ := List.exists_cons_of_length_eq_add_one length.symm
    obtain ⟨value', rest', rfl⟩ := List.exists_cons_of_length_eq_add_one (Nat.succ_inj.mp length).symm
    rw [countPairs, if_pos failed] at same
    simp only [List.take_succ_cons, List.cons.injEq] at same
    obtain ⟨rfl, _⟩ := same
    exact ⟨by rw [countPairs, countPairs, if_pos failed, if_pos failed], bind_of_fails failed _ _⟩
  | case2 key value rest read error =>
    intro os' length same
    obtain ⟨key', os', rfl⟩ := List.exists_cons_of_length_eq_add_one length.symm
    obtain ⟨value', rest', rfl⟩ := List.exists_cons_of_length_eq_add_one (Nat.succ_inj.mp length).symm
    rw [countPairs, if_neg read, if_pos error] at same
    simp only [List.take_succ_cons, List.cons.injEq] at same
    obtain ⟨rfl, rfl, _⟩ := same
    refine ⟨by rw [countPairs, countPairs, if_neg read, if_pos error, if_neg read, if_pos error], ?_⟩
    cases value with
    | error e => rfl
    | _ => contradiction
  | case3 key value rest read present ih =>
    intro os' length same
    obtain ⟨key', os', rfl⟩ := List.exists_cons_of_length_eq_add_one length.symm
    obtain ⟨value', rest', rfl⟩ := List.exists_cons_of_length_eq_add_one (Nat.succ_inj.mp length).symm
    rw [countPairs, if_neg read, if_neg present, Nat.add_comm 2] at same
    simp only [List.take_succ_cons, List.cons.injEq] at same
    obtain ⟨rfl, rfl, same⟩ := same
    obtain ⟨count, entries⟩ := ih (by simpa using length) same
    refine ⟨by rw [countPairs, countPairs, if_neg read, if_neg present, if_neg read, if_neg present, count], ?_⟩
    rw [CollectionFunction.pairs, CollectionFunction.pairs, entries]
  | case4 os single =>
    intro os' length same
    have all : countPairs f os = os.length := by
      unfold countPairs
      split
      case h_1 key value rest => exact absurd rfl (single key value rest)
      case h_2 => rfl
    rw [all, List.take_length, length, List.take_length] at same
    rw [same]
    exact ⟨rfl, rfl⟩

section Reads

variable {p q r : Outcome → Bool} {a b c a' b' c' : Outcome}

theorem countRead_congr {reads : List (Outcome → Bool)} {os os' : List Outcome} (length : os.length = os'.length)
    (same : os.take (countRead reads os) = os'.take (countRead reads os)) :
    countRead reads os = countRead reads os' := by
  induction reads generalizing os os' with
  | nil => rfl
  | cons read reads ih =>
    cases os with
    | nil => rw [List.eq_nil_of_length_eq_zero length.symm]
    | cons o os =>
      obtain ⟨o', os', rfl⟩ := List.exists_cons_of_length_eq_add_one length.symm
      rw [List.length_cons, List.length_cons, Nat.succ_inj] at length
      rw [countRead] at same
      by_cases on : read o = true
      · rw [if_pos on, Nat.add_comm, List.take_succ_cons, List.take_succ_cons, List.cons.injEq] at same
        rw [countRead, countRead, ← same.1, if_pos on, if_pos on, ih length same.2]
      · rw [if_neg on, List.take_succ_cons, List.take_succ_cons, List.cons.injEq] at same
        rw [countRead, countRead, ← same.1, if_neg on, if_neg on]

theorem decides_of_countRead {reads : List (Outcome → Bool)} {g : List Outcome → β}
    (congr : ∀ ⦃os os'⦄, os.length = os'.length →
      os.take (countRead reads os) = os'.take (countRead reads os) → g os = g os') : Decides (countRead reads) g :=
  fun _ _ length same => ⟨countRead_congr length same, congr length same⟩

theorem countRead_two (same : [a, b].take (countRead [p, q, r] [a, b]) = [a', b'].take (countRead [p, q, r] [a, b])) :
    a = a' ∧ (p a = false ∨ b = b') := by
  cases first : p a <;> simp_all [countRead]

theorem countRead_three (same : [a, b, c].take (countRead [p, q, r] [a, b, c]) =
    [a', b', c'].take (countRead [p, q, r] [a, b, c])) :
    a = a' ∧ (p a = false ∨ b = b' ∧ (q b = false ∨ c = c')) := by
  cases first : p a <;> cases second : q b <;> simp_all [countRead]

theorem fails_of_unread {x : Except EvalError α} (unread : (!fails x) = false) : fails x = true := by
  simpa using unread

end Reads

end DocQuery
