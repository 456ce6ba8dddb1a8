import DocQuery.Proofs.Eval.Operands
import DocQuery.Regex.Library

/-! The operands that an application consults decide its outcome, and those before an operand decide whether it
is consulted. So operands can be read from left to right, and what is passed over does not matter. -/
namespace DocQuery

section Applications

variable {rules : RegexRules} {f : Builtin} {os os' : List Outcome}

theorem Builtin.apply_congr (length : os.length = os'.length)
    (run : f.arity.admits os.length = true → f.run rules os = f.run rules os') :
    f.apply rules os = f.apply rules os' := by
  rw [apply, apply, ← length]
  split
  case isTrue admits => exact run admits
  case isFalse => rfl

theorem ofExcept_map_congr (toValue : α → Value) {x y : Except EvalError α} (same : x = y) :
    Outcome.ofExcept (x.map toValue) = Outcome.ofExcept (y.map toValue) := by
  rw [same]

/-- After the first operand, those up to the first error decide. -/
theorem decides_of_others {g : List Outcome → β} {count : List Outcome → Nat}
    (others : ∀ o rest, count (o :: rest) = 1 + countUpTo Outcome.isError rest)
    (congr : ∀ o rest rest', SameUpTo Outcome.isError rest rest' → g (o :: rest) = g (o :: rest')) :
    Decides count g := by
  intro os os' length same
  cases os with
  | nil =>
    rw [List.eq_nil_of_length_eq_zero length.symm]
    exact ⟨rfl, rfl⟩
  | cons o rest =>
    obtain ⟨o', rest', rfl⟩ := List.exists_cons_of_length_eq_add_one length.symm
    rw [others, Nat.add_comm, List.take_succ_cons, List.take_succ_cons, List.cons.injEq] at same
    obtain ⟨rfl, same⟩ := same
    have upTo := SameUpTo.of_take (Nat.succ_inj.mp length) same
    exact ⟨by rw [others, others, upTo.countUpTo_eq], congr o rest rest' upTo⟩

theorem decides_membership (m : Membership) :
    Decides (Builtin.membership m).demand ((Builtin.membership m).apply rules) := by
  refine decides_of_others (fun _ _ => rfl) fun o rest rest' upTo => ?_
  refine Builtin.apply_congr (by simp [upTo.length_eq]) fun _ => ?_
  exact Membership.apply_congr o upTo

theorem decides_containment (c : Containment) :
    Decides (Builtin.containment c).demand ((Builtin.containment c).apply rules) := by
  cases c with
  | element => exact decides_of_all _ fun _ => rfl
  | all | any =>
    refine decides_of_others (fun _ _ => rfl) fun o rest rest' upTo => ?_
    refine Builtin.apply_congr (by simp [upTo.length_eq]) fun _ => ?_
    exact Containment.severalInArray_congr o upTo

section Counted

variable {settles : Outcome → Bool}

/-! The operands up to one that settles the outcome decide a function that is the same of operands that are the same so
far. Where their number is fixed, what is left to show is about that many operands. -/

theorem decides_of_run (demand : f.demand = countUpTo settles)
    (run : ∀ ⦃os os'⦄, SameUpTo settles os os' → f.run rules os = f.run rules os') :
    Decides f.demand (f.apply rules) := by
  rw [demand]
  exact decides_of_sameUpTo fun os os' upTo => Builtin.apply_congr upTo.length_eq fun _ => run upTo

theorem decides_of_one (arity : f.arity = .exactly 1) (demand : f.demand = countUpTo settles) :
    Decides f.demand (f.apply rules) := by
  rw [demand]
  refine decides_of_sameUpTo fun os os' upTo => Builtin.apply_congr upTo.length_eq fun admits => ?_
  rw [arity] at admits
  rw [upTo.eq_of_length_one (eq_of_beq admits)]

theorem decides_of_two (arity : f.arity = .exactly 2) (demand : f.demand = countUpTo settles)
    (run : ∀ {a b b'}, settles a = true ∨ b = b' → f.run rules [a, b] = f.run rules [a, b']) :
    Decides f.demand (f.apply rules) := by
  rw [demand]
  refine decides_of_sameUpTo fun os os' upTo => Builtin.apply_congr upTo.length_eq fun admits => ?_
  rw [arity] at admits
  obtain ⟨a, b, b', rfl, rfl, decided⟩ := upTo.exists_of_length_two (eq_of_beq admits)
  exact run decided

theorem decides_of_three (arity : f.arity = .exactly 3) (demand : f.demand = countUpTo settles)
    (run : ∀ {a b b' c c'}, settles a = true ∨ b = b' ∧ (settles b = true ∨ c = c') →
      f.run rules [a, b, c] = f.run rules [a, b', c']) : Decides f.demand (f.apply rules) := by
  rw [demand]
  refine decides_of_sameUpTo fun os os' upTo => Builtin.apply_congr upTo.length_eq fun admits => ?_
  rw [arity] at admits
  obtain ⟨a, b, b', c, c', rfl, rfl, decided⟩ := upTo.exists_of_length_three (eq_of_beq admits)
  exact run decided

theorem demand_of_texts (demand : f.demand = countUpTo (!f.readsString ·)) :
    f.demand = countUpTo fun o => fails (o.string f) :=
  demand.trans (congrArg countUpTo (not_readsString f))

end Counted

theorem decides_connective (c : Connective) :
    Decides (Builtin.connective c).demand ((Builtin.connective c).apply rules) := by
  cases c with
  | and | or => exact decides_of_run rfl fun _ _ upTo => Connective.dominated_congr _ _ upTo
  | xor => exact decides_of_run rfl fun _ _ upTo => Connective.parity_congr _ _ upTo
  | not => exact decides_of_all _ fun _ => rfl

theorem decides_arithmetic (op : Arithmetic) :
    Decides (Builtin.arithmetic op).demand ((Builtin.arithmetic op).apply rules) := by
  cases op with
  | add | multiply =>
    intro os os' length same
    obtain ⟨count, total⟩ := countFolded_decides _ length same
    exact ⟨count, Builtin.apply_congr length fun _ => ofExcept_map_congr Number.toValue total⟩
  | subtract | divide | mod =>
    refine decides_of_two rfl rfl fun decided => ?_
    exact ofExcept_map_congr Number.toValue (Arithmetic.binary_congr decided)

theorem decides_text (t : TextFunction) : Decides (Builtin.text t).demand ((Builtin.text t).apply rules) := by
  cases t with
  | charLength | byteLength | toLower | toUpper | trim | reverse => exact decides_of_one rfl rfl
  | concat => exact decides_of_run rfl fun _ _ upTo => ofExcept_map_congr Value.string (TextFunction.join_congr upTo)
  | contains | startsWith | endsWith =>
    refine decides_of_two rfl (demand_of_texts rfl) fun decided => ?_
    exact congrArg Outcome.ofExcept (TextFunction.search_congr _ decided)
  | replaceFirst | replaceAll =>
    refine decides_of_three rfl (demand_of_texts rfl) fun decided => ?_
    exact congrArg Outcome.ofExcept (TextFunction.replace_congr _ decided)
  | substr =>
    refine decides_of_countRead fun os os' length same => Builtin.apply_congr length fun admits => ?_
    rcases Bool.or_eq_true_iff.mp admits with two | three
    · obtain ⟨a, b, rfl⟩ := List.length_eq_two.mp (eq_of_beq two)
      obtain ⟨a', b', rfl⟩ := List.length_eq_two.mp length.symm
      obtain ⟨rfl, decided⟩ := countRead_two same
      exact congrArg Outcome.ofExcept (TextFunction.cut_congr
        (decided.imp fails_of_unread fun second => ⟨second, .inr rfl⟩))
    · obtain ⟨a, b, c, rfl⟩ := List.length_eq_three.mp (eq_of_beq three)
      obtain ⟨a', b', c', rfl⟩ := List.length_eq_three.mp length.symm
      obtain ⟨rfl, decided⟩ := countRead_three same
      exact congrArg Outcome.ofExcept (TextFunction.cut_congr (decided.imp fails_of_unread
        fun ⟨second, third⟩ => ⟨second, third.imp fails_of_unread (congrArg some)⟩))

theorem decides_pattern (p : PatternTest) :
    Decides (Builtin.pattern p).demand ((Builtin.pattern p).apply rules) := by
  refine decides_of_two rfl (demand_of_texts rfl) fun decided => ?_
  exact congrArg Outcome.ofExcept (PatternTest.apply_congr rules decided)

theorem decides_collection (c : CollectionFunction) :
    Decides (Builtin.collection c).demand ((Builtin.collection c).apply rules) := by
  cases c with
  | arrayLength | arrayReverse => exact decides_of_one rfl rfl
  | arrayConcat =>
    refine decides_of_run rfl fun _ _ upTo => ?_
    exact ofExcept_map_congr Value.array (CollectionFunction.join_congr upTo)
  | arrayGet =>
    refine decides_of_two rfl rfl fun decided => ?_
    exact congrArg Outcome.ofExcept (CollectionFunction.getItem_congr decided)
  | map =>
    intro os os' length same
    obtain ⟨count, entries⟩ := countPairs_decides _ length same
    refine ⟨count, Builtin.apply_congr length fun _ => ?_⟩
    exact ofExcept_map_congr (fun pairs => Value.map (Entries.ofPairs pairs)) entries
  | mapGet => exact decides_of_two rfl rfl CollectionFunction.getEntry_congr
  | mapMerge =>
    refine decides_of_run rfl fun _ _ upTo => ?_
    exact ofExcept_map_congr Value.map (CollectionFunction.merge_congr [] upTo)
  | mapRemove =>
    refine decides_of_two rfl rfl fun decided => ?_
    exact congrArg Outcome.ofExcept (CollectionFunction.removeEntry_congr decided)

theorem decides_vector (v : VectorFunction) :
    Decides (Builtin.vector v).demand ((Builtin.vector v).apply rules) := by
  cases v with
  | length => exact decides_of_one rfl rfl
  | cosine | dotProduct | euclidean | manhattan =>
    refine decides_of_two rfl rfl fun decided => ?_
    exact congrArg Outcome.ofExcept (VectorFunction.distance_congr decided)

theorem decides_time (t : TimeFunction) : Decides (Builtin.time t).demand ((Builtin.time t).apply rules) := by
  cases t with
  | ofUnix | toUnix => exact decides_of_all _ fun _ => rfl
  | add | sub =>
    refine decides_of_countRead fun os os' length same => Builtin.apply_congr length fun admits => ?_
    obtain ⟨a, b, c, rfl⟩ := List.length_eq_three.mp (eq_of_beq admits)
    obtain ⟨a', b', c', rfl⟩ := List.length_eq_three.mp length.symm
    obtain ⟨rfl, decided⟩ := countRead_three same
    exact congrArg Outcome.ofExcept (TimeFunction.shift_congr _ (decided.imp fails_of_unread
      fun ⟨second, third⟩ => ⟨second, third.imp_left fails_of_unread⟩))

/-- As many operands as are demanded of an application decide its outcome. -/
theorem Builtin.decides (rules : RegexRules) (f : Builtin) : Decides f.demand (f.apply rules) := by
  cases f with
  | relation | inspection | selection | documentId => exact decides_of_all _ fun _ => rfl
  | membership m => exact decides_membership m
  | containment c => exact decides_containment c
  | connective c => exact decides_connective c
  | arithmetic op => exact decides_arithmetic op
  | text t => exact decides_text t
  | pattern p => exact decides_pattern p
  | collection c => exact decides_collection c
  | vector v => exact decides_vector v
  | time t => exact decides_time t

end Applications

section Positions

/-- The operands before one decide whether that one is consulted, as far as they are consulted themselves. -/
def Leftward (consulted : List Outcome → List Nat) : Prop :=
  ∀ ⦃os os' : List Outcome⦄, os.length = os'.length → ∀ i, (∀ j < i, j ∈ consulted os → os[j]? = os'[j]?) →
    (i ∈ consulted os ↔ i ∈ consulted os')

/-- The operands that are consulted decide a function of all of them. -/
def Suffices (consulted : List Outcome → List Nat) (g : List Outcome → β) : Prop :=
  ∀ ⦃os os' : List Outcome⦄, os.length = os'.length → (∀ i ∈ consulted os, os[i]? = os'[i]?) → g os = g os'

variable {count : List Outcome → Nat} {g : List Outcome → β}

theorem Decides.leftward (decides : Decides count g) : Leftward fun os => List.range (count os) := by
  intro os os' length i same
  simp only [List.mem_range] at same ⊢
  exact decides.lt_iff length same

theorem Decides.suffices (decides : Decides count g) : Suffices (fun os => List.range (count os)) g := by
  intro os os' length same
  refine (decides length (List.ext_getElem? fun i => ?_)).2
  rw [List.getElem?_take, List.getElem?_take]
  split
  case isTrue counted => exact same i (List.mem_range.mpr counted)
  case isFalse => rfl

theorem consulted_ifError (tried fallback : Outcome) : (Builtin.selection .ifError).consulted [tried, fallback] =
    if tried.isError then [0, 1] else [0] := rfl

theorem consulted_cond (test yes no : Outcome) : (Builtin.selection .cond).consulted [test, yes, no] =
    if test.isError then [0] else if test.isTrue then [0, 1] else [0, 2] := rfl

theorem zero_mem_consulted_ifError (tried fallback : Outcome) :
    0 ∈ (Builtin.selection .ifError).consulted [tried, fallback] := by
  rw [consulted_ifError]
  split <;> simp

theorem zero_mem_consulted_cond (test yes no : Outcome) :
    0 ∈ (Builtin.selection .cond).consulted [test, yes, no] := by
  rw [consulted_cond]
  split
  · simp
  · split <;> simp

/-- Two functions choose among their operands, one that fails is to be replaced or is a test. The others consult
their operands up to some point, unless there is a wrong number of them. -/
theorem consulted_kinds (f : Builtin) : f = .selection .ifError ∨ f = .selection .cond ∨
    ∀ {os}, f.arity.admits os.length = true → f.consulted os = List.range (f.demand os) := by
  by_cases tried : f = .selection .ifError
  · exact .inl tried
  by_cases test : f = .selection .cond
  · exact .inr (.inl test)
  refine .inr (.inr fun {os} admits => ?_)
  unfold Builtin.consulted
  rw [if_neg (by simp [admits])]
  split
  · contradiction
  · contradiction
  · rfl

theorem consulted_eq_nil {f : Builtin} {os : List Outcome} (wrong : ¬ f.arity.admits os.length = true) :
    f.consulted os = [] := by
  unfold Builtin.consulted
  rw [if_pos (by simpa using wrong)]

theorem consulted_leftward (f : Builtin) : Leftward f.consulted := by
  intro os os' length i same
  by_cases admits : f.arity.admits os.length = true
  · have admits' : f.arity.admits os'.length = true := length ▸ admits
    rcases consulted_kinds f with rfl | rfl | counted
    · obtain ⟨tried, fallback, rfl⟩ := List.length_eq_two.mp (eq_of_beq admits)
      obtain ⟨tried', fallback', rfl⟩ := List.length_eq_two.mp (eq_of_beq admits')
      cases i with
      | zero => exact iff_of_true (zero_mem_consulted_ifError _ _) (zero_mem_consulted_ifError _ _)
      | succ i =>
        cases same 0 (Nat.zero_lt_succ i) (zero_mem_consulted_ifError _ _)
        exact Iff.rfl
    · obtain ⟨test, yes, no, rfl⟩ := List.length_eq_three.mp (eq_of_beq admits)
      obtain ⟨test', yes', no', rfl⟩ := List.length_eq_three.mp (eq_of_beq admits')
      cases i with
      | zero => exact iff_of_true (zero_mem_consulted_cond _ _ _) (zero_mem_consulted_cond _ _ _)
      | succ i =>
        cases same 0 (Nat.zero_lt_succ i) (zero_mem_consulted_cond _ _ _)
        exact Iff.rfl
    · rw [counted admits] at same ⊢
      rw [counted admits']
      exact (f.decides 0).leftward length i same
  · have wrong : ¬ f.arity.admits os'.length = true := length ▸ admits
    rw [consulted_eq_nil admits, consulted_eq_nil wrong]

theorem consulted_suffices (rules : RegexRules) (f : Builtin) : Suffices f.consulted (f.apply rules) := by
  intro os os' length same
  refine f.apply_congr length fun admits => ?_
  rcases consulted_kinds f with rfl | rfl | counted
  · obtain ⟨tried, fallback, rfl⟩ := List.length_eq_two.mp (eq_of_beq admits)
    obtain ⟨tried', fallback', rfl⟩ := List.length_eq_two.mp length.symm
    cases same 0 (zero_mem_consulted_ifError _ _)
    cases tried with
    | error e =>
      cases same 1 (List.mem_cons_of_mem 0 List.mem_cons_self)
      rfl
    | value | absent => rfl
  · obtain ⟨test, yes, no, rfl⟩ := List.length_eq_three.mp (eq_of_beq admits)
    obtain ⟨test', yes', no', rfl⟩ := List.length_eq_three.mp length.symm
    cases same 0 (zero_mem_consulted_cond _ _ _)
    change conditional test yes no = conditional test yes' no'
    cases test with
    | error e => rfl
    | absent =>
      cases same 2 (List.mem_cons_of_mem 0 List.mem_cons_self)
      rfl
    | value v =>
      rw [consulted_cond, if_neg (by simp [Outcome.isError])] at same
      change (if v.isTrue = true then yes else no) = if v.isTrue = true then yes' else no'
      by_cases holds : v.isTrue = true
      · rw [if_pos (by exact holds)] at same
        cases same 1 (List.mem_cons_of_mem 0 List.mem_cons_self)
        rw [if_pos holds, if_pos holds]
      · rw [if_neg (by exact holds)] at same
        cases same 2 (List.mem_cons_of_mem 0 List.mem_cons_self)
        rw [if_neg holds, if_neg holds]
  · rw [counted admits] at same
    have outcome := (f.decides rules).suffices length same
    rwa [Builtin.apply, Builtin.apply, ← length, if_pos admits, if_pos admits] at outcome

end Positions
end DocQuery
