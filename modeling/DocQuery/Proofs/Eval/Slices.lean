import DocQuery.Proofs.Machine.Evaluate
import DocQuery.Regex.Library

/-! Slices of texts. A position leads to a place in the text, as if numbers had no bound, and a slice is what is
between two places. So a text is put together again from its two parts, and positions from the end give ends of it. -/
namespace DocQuery
namespace TextFunction

section Places

/-- The place in a text of so many characters that a position leads to. -/
def place (count : Nat) (position : Int) : Int :=
  if position < 0 then max 0 (count + position) else min position count

variable {count : Nat} {position : Int}

theorem sliceStart_eq_place (count : Nat) (position : Int) :
    sliceStart count position = (place count position).toNat := by
  rw [sliceStart, place]
  split <;> omega

theorem place_of_nonneg (h : 0 ≤ position) : place count position = min position count := if_neg (by omega)

theorem place_of_neg (h : position < 0) : place count position = max 0 (count + position) := if_pos h

end Places

section Slices

variable {cs : List Char} {position n : Int}

theorem slice_none (cs : List Char) (position : Int) :
    slice cs position none = cs.drop (place cs.length position).toNat := by
  rw [slice, sliceStart_eq_place]

/-- A number of characters is as many as there are where it asks for more. -/
theorem slice_some (positive : 0 ≤ n) (cs : List Char) (position : Int) : slice cs position (some n) =
    (cs.drop (place cs.length position).toNat).take (min n (cs.length - place cs.length position)).toNat := by
  rw [slice, sliceStart_eq_place, List.take_eq_take_iff, List.length_drop]
  omega

/-- The first characters and those behind them are the whole text. -/
theorem slice_append (positive : 0 ≤ n) (s : String) :
    String.ofList (slice s.toList 0 (some n)) ++ String.ofList (slice s.toList n none) = s := by
  have front : slice s.toList 0 (some n) = s.toList.take n.toNat := by
    rw [slice, sliceStart_eq_place, place_of_nonneg (Int.le_refl 0)]
    simp
  have back : slice s.toList n none = s.toList.drop n.toNat := by
    rw [slice_none, place_of_nonneg positive, List.drop_eq_drop_iff]
    omega
  rw [front, back, ← String.ofList_append, List.take_append_drop, String.ofList_toList]

theorem slice_suffix (cs : List Char) (position : Int) : slice cs position none <:+ cs := by
  rw [slice_none]
  exact List.drop_suffix _ cs

theorem length_slice_neg (negative : position < 0) (cs : List Char) :
    ((slice cs position none).length : Int) = min (-position) cs.length := by
  rw [slice_none, place_of_neg negative, List.length_drop]
  omega

end Slices

section Calls

variable {rules : RegexRules} {row : Row} {text position length : Expr} {s : String} {p n : Int64}

theorem evaluate_substr (hs : evaluate rules row text = .value (.string s))
    (hp : evaluate rules row position = .value (.integer p)) :
    evaluate rules row (.call (.text .substr) [text, position]) =
      .value (.string (.ofList (slice s.toList p.toInt none))) := by
  rw [evaluate_application rfl, List.map_cons, List.map_cons, List.map_nil, hs, hp]
  rfl

theorem evaluate_substr_length (hs : evaluate rules row text = .value (.string s))
    (hp : evaluate rules row position = .value (.integer p)) (hn : evaluate rules row length = .value (.integer n)) :
    evaluate rules row (.call (.text .substr) [text, position, length]) =
      if n.toInt < 0 then .error (.invalidArgument (.text .substr) .negativeLength)
      else .value (.string (.ofList (slice s.toList p.toInt (some n.toInt)))) := by
  have applied : (Builtin.text .substr).apply rules [.value (.string s), .value (.integer p), .value (.integer n)] =
      .ofExcept (if decide (n.toInt < 0) = true then .error (.invalidArgument (.text .substr) .negativeLength)
        else .ok (.string (.ofList (slice s.toList p.toInt (some n.toInt))))) := rfl
  rw [evaluate_application rfl, List.map_cons, List.map_cons, List.map_cons, List.map_nil, hs, hp, hn, applied]
  by_cases negative : n.toInt < 0
  · rw [if_pos (decide_eq_true negative), if_pos negative]
    rfl
  · rw [if_neg (by simpa using negative), if_neg negative]
    rfl

theorem evaluate_concat {left right : Expr} {a b : String} (ha : evaluate rules row left = .value (.string a))
    (hb : evaluate rules row right = .value (.string b)) :
    evaluate rules row (.call (.text .concat) [left, right]) = .value (.string (a ++ b)) := by
  have applied : (Builtin.text .concat).apply rules [.value (.string a), .value (.string b)] =
      .value (.string (a ++ (b ++ ""))) := rfl
  rw [evaluate_application rfl, List.map_cons, List.map_cons, List.map_nil, ha, hb, applied, String.append_empty]

/-- Slices are of code points, at exact places. What a slice leaves over is the slice from where it ends, and a position
before the end gives a suffix of that length, or the whole text. -/
theorem slices_exact (rules : RegexRules) (row : Row) (hs : evaluate rules row text = .value (.string s)) :
    let reads (e : Expr) (i : Int64) := evaluate rules row e = .value (.integer i)
    let substr (args : List Expr) := Expr.call (.text .substr) (text :: args)
    let yields (e : Expr) (t : String) := Machine.Evaluates rules row e (.value (.string t))
    (∀ position p, reads position p →
        let start : Int := if p.toInt < 0 then max 0 (s.length + p.toInt) else min p.toInt s.length
        let rest := s.toList.drop start.toNat
        yields (substr [position]) (.ofList rest) ∧
          ∀ length n, reads length n →
            (0 ≤ n.toInt → yields (substr [position, length])
                (.ofList (rest.take (min n.toInt (s.length - start)).toNat))) ∧
              (n.toInt < 0 → Machine.Evaluates rules row (substr [position, length])
                (.error (.invalidArgument (.text .substr) .negativeLength)))) ∧
      (∀ zero count k, reads zero 0 → reads count k → 0 ≤ k.toInt →
        yields (.call (.text .concat) [substr [zero, count], substr [count]]) s) ∧
      ∀ position p, reads position p → ∀ k : Int, 1 ≤ k → p.toInt = -k →
        ∃ t, yields (substr [position]) t ∧ (t.length : Int) = min k s.length ∧ t.toList <:+ s.toList := by
  intro reads substr yields
  have zero_word : (0 : Int64).toInt = 0 := rfl
  have whole (position : Expr) (p : Int64) (hp : reads position p) :
      yields (substr [position]) (.ofList (slice s.toList p.toInt none)) :=
    (Machine.evaluates_iff rules row).mpr (evaluate_substr hs hp)
  refine ⟨fun position p hp => ⟨?_, fun length n hn => ⟨fun positive => ?_, fun negative => ?_⟩⟩,
    fun zero count k hz hk positive => ?_, fun position p hp k some_characters back => ?_⟩
  · have places := slice_none s.toList p.toInt
    rw [String.length_toList, place] at places
    exact places ▸ whole position p hp
  · have places := slice_some positive s.toList p.toInt
    rw [String.length_toList, place] at places
    refine (Machine.evaluates_iff rules row).mpr ?_
    rw [evaluate_substr_length hs hp hn, if_neg (Int.not_lt.mpr positive), places]
  · refine (Machine.evaluates_iff rules row).mpr ?_
    rw [evaluate_substr_length hs hp hn, if_pos negative]
  · have front := evaluate_substr_length hs hz hk
    rw [if_neg (Int.not_lt.mpr positive)] at front
    refine (Machine.evaluates_iff rules row).mpr ?_
    rw [evaluate_concat front (evaluate_substr hs hk), zero_word, slice_append positive s]
  · have negative : p.toInt < 0 := by omega
    have size := length_slice_neg negative s.toList
    refine ⟨_, whole position p hp, ?_, ?_⟩
    · rw [String.length_ofList, size, String.length_toList, back, Int.neg_neg]
    · rw [String.toList_ofList]
      exact slice_suffix s.toList p.toInt

/-- From the least position on for the greatest number of characters, which leads as far as one can count, and from
around the second of five characters of six bytes. -/
theorem slices_exact_at_extremes :
    let row : Row := .ofFields [("w", .string "héllo")]
    let w : Expr := .field ⟨["w"]⟩
    let int (i : Int64) : Expr := .constant (.integer i)
    let yields (e : Expr) (t : String) := Machine.Evaluates 0 row e (.value (.string t))
    evaluate 0 row w = .value (.string "héllo") ∧
      yields (.call (.text .substr) [w, int Int64.minValue, int Int64.maxValue]) "héllo" ∧
      yields (.call (.text .substr) [w, int 1, int 2]) "él" ∧
      Machine.Evaluates 0 row (.call (.text .substr) [w, int 1, int (-1)])
        (.error (.invalidArgument (.text .substr) .negativeLength)) ∧
      yields (.call (.text .concat) [.call (.text .substr) [w, int 0, int 2], .call (.text .substr) [w, int 2]])
        "héllo" ∧
      ∃ t, yields (.call (.text .substr) [w, int (-3)]) t ∧ (t.length : Int) = 3 ∧
        t.toList <:+ ['h', 'é', 'l', 'l', 'o'] := by
  intro row w int yields
  have hs : evaluate 0 row w = .value (.string "héllo") := rfl
  obtain ⟨slices, whole, ends⟩ := slices_exact 0 row hs
  have all := ((slices (int Int64.minValue) _ rfl).2 (int Int64.maxValue) _ rfl).1 (by decide)
  have two := (slices (int 1) _ rfl).2
  exact ⟨hs, all, (two (int 2) _ rfl).1 (by decide), (two (int (-1)) _ rfl).2 (by decide),
    whole (int 0) (int 2) _ rfl rfl (by decide), ends (int (-3)) _ rfl 3 (by decide) rfl⟩

end Calls

end TextFunction
end DocQuery
