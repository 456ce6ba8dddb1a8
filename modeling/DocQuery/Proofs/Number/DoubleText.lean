import Mathlib.Data.List.TakeDrop
import DocQuery.Proofs.Number.Decimal

/-! Reading the text of a double gives the double back. -/
namespace DocQuery

theorem spanDigits_append {digits rest : List Char} (h : ∀ c ∈ digits, c.isDigit = true)
    (stop : ∀ c ∈ rest.head?, c.isDigit = false) : spanDigits (digits ++ rest) = (digits, rest) := by
  have tail : rest.takeWhile Char.isDigit = [] ∧ rest.dropWhile Char.isDigit = rest := by
    cases rest with
    | nil => exact ⟨rfl, rfl⟩
    | cons c cs => simp [stop c rfl]
  rw [spanDigits, List.span_eq_takeWhile_dropWhile, List.takeWhile_append_of_pos h,
    List.dropWhile_append_of_pos h, tail.1, tail.2, List.append_nil]

theorem digitsValue_eq (cs : List Char) : digitsValue cs = Nat.ofDigitChars 10 cs 0 := by
  simp [digitsValue, Nat.ofDigitChars_eq_foldl, Nat.mul_comm]

theorem digitsValue_toString (n : Nat) : digitsValue (toString n).toList = n := by
  rw [digitsValue_eq, Nat.toString_eq_repr, Nat.toList_repr, Nat.ofDigitChars_ten_toDigits]

theorem digitsValue_zeros_after (cs : List Char) (n : Nat) :
    digitsValue (cs ++ List.replicate n '0') = digitsValue cs * 10 ^ n := by
  rw [digitsValue_eq, Nat.ofDigitChars_append, Nat.ofDigitChars_replicate_zero, digitsValue_eq,
    Nat.mul_comm]

theorem digitsValue_zeros_before (cs : List Char) (n : Nat) :
    digitsValue (List.replicate n '0' ++ cs) = digitsValue cs := by
  rw [digitsValue_eq, Nat.ofDigitChars_append, Nat.ofDigitChars_replicate_zero, digitsValue_eq,
    Nat.mul_zero]

theorem isDigit_of_mem_toString {n : Nat} {c : Char} (h : c ∈ (toString n).toList) :
    c.isDigit = true := by
  rw [Nat.toString_eq_repr, Nat.toList_repr] at h
  exact Nat.isDigit_of_mem_toDigits (by decide) (by decide) h

theorem toString_ne_nil (n : Nat) : (toString n).toList ≠ [] := by
  rw [Nat.toString_eq_repr, Nat.toList_repr]
  exact Nat.toDigits_ne_nil

/-- An integer is its digits, after a minus sign where it is negative. -/
theorem toList_toString_int (i : Int) :
    (toString i).toList = (if i < 0 then ['-'] else []) ++ (toString i.natAbs).toList := by
  cases i with
  | ofNat n => simp [toString, Int.repr]
  | negSucc n => simp [toString, Int.repr]

namespace Double

theorem parseExponent?_toString (i : Int) : parseExponent? ('e' :: (toString i).toList) = some i := by
  have digits : (toString i.natAbs).toList.all Char.isDigit = true :=
    List.all_eq_true.mpr fun c h => isDigit_of_mem_toString h
  have value := digitsValue_toString i.natAbs
  have nonempty := toString_ne_nil i.natAbs
  rw [toList_toString_int]
  generalize (toString i.natAbs).toList = ds at digits value nonempty
  by_cases sign : i < 0
  · have whole : -(i.natAbs : Int) = i := by omega
    simp only [parseExponent?, sign, List.cons_append, List.nil_append, if_true, true_or, ne_eq,
      nonempty, not_false_eq_true, digits, and_self, value, whole]
  · have whole : (i.natAbs : Int) = i := by omega
    have unsigned : ∀ c ∈ ds.head?, c ≠ '-' ∧ c ≠ '+' := by
      intro c hc
      have digit := List.all_eq_true.mp digits c (List.mem_of_mem_head? hc)
      constructor <;> rintro rfl <;> exact absurd digit (by decide)
    cases ds with
    | nil => exact absurd rfl nonempty
    | cons c cs =>
      obtain ⟨minus, plus⟩ := unsigned c rfl
      simp [parseExponent?, -List.all_eq_true, sign, minus, plus, digits, value, whole]

theorem parseDecimal?_pointed (negative : Bool) {before after tail : List Char} {exponent : Int}
    (hb : ∀ c ∈ before, c.isDigit = true) (ha : ∀ c ∈ after, c.isDigit = true)
    (nonempty : before ≠ []) (stop : ∀ c ∈ tail.head?, c.isDigit = false)
    (read : parseExponent? tail = some exponent) :
    parseDecimal? negative (before ++ '.' :: (after ++ tail)) =
      some (ofDecimal negative (digitsValue (before ++ after)) (exponent - after.length)) := by
  have first : spanDigits (before ++ '.' :: (after ++ tail)) = (before, '.' :: (after ++ tail)) :=
    spanDigits_append hb (by simp)
  have second : spanDigits (after ++ tail) = (after, tail) := spanDigits_append ha stop
  simp [parseDecimal?, first, second, nonempty, read]

/-- Digits before and after a point, or with an exponent, or both, and the decimal that they mean. -/
inductive DecimalText : List Char → Nat → Int → Prop
  | pointed {before after : List Char} (hb : ∀ c ∈ before, c.isDigit = true)
      (ha : ∀ c ∈ after, c.isDigit = true) (nonempty : before ≠ []) :
      DecimalText (before ++ '.' :: after) (digitsValue (before ++ after)) (-(after.length : Int))
  | scaled {before : List Char} (hb : ∀ c ∈ before, c.isDigit = true) (nonempty : before ≠ [])
      (power : Int) :
      DecimalText (before ++ 'e' :: (toString power).toList) (digitsValue before) power
  | both {before after : List Char} (hb : ∀ c ∈ before, c.isDigit = true)
      (ha : ∀ c ∈ after, c.isDigit = true) (nonempty : before ≠ []) (power : Int) :
      DecimalText (before ++ '.' :: (after ++ 'e' :: (toString power).toList))
        (digitsValue (before ++ after)) (power - after.length)

theorem DecimalText.parse {text : List Char} {digits : Nat} {exponent : Int} (negative : Bool)
    (h : DecimalText text digits exponent) :
    parseDecimal? negative text = some (ofDecimal negative digits exponent) := by
  cases h with
  | @pointed before after hb ha nonempty =>
    have read : parseDecimal? negative (before ++ '.' :: (after ++ [])) = _ :=
      parseDecimal?_pointed negative hb ha nonempty (by simp) rfl
    rwa [List.append_nil, Int.zero_sub] at read
  | @scaled before hb nonempty =>
    have first : spanDigits (before ++ 'e' :: (toString exponent).toList) =
        (before, 'e' :: (toString exponent).toList) := spanDigits_append hb (by simp)
    have read := parseExponent?_toString exponent
    generalize (toString exponent).toList = tail at first read ⊢
    simp [parseDecimal?, first, nonempty, read]
  | both hb ha nonempty power =>
    exact parseDecimal?_pointed negative hb ha nonempty (by simp) (parseExponent?_toString power)

theorem toList_zeros (n : Nat) : ("".pushn '0' n).toList = List.replicate n '0' := by
  rw [String.pushn_eq_repeat_push]
  induction n with
  | zero => rfl
  | succ n ih => rw [Nat.repeat, String.toList_push, ih, ← List.replicate_succ']

theorem isDigit_zeros (n : Nat) : ∀ c ∈ List.replicate n '0', c.isDigit = true := by
  intro c hc
  rw [List.eq_of_mem_replicate hc]
  rfl

section Layouts

variable {digits : String} (h : ∀ c ∈ digits.toList, c.isDigit = true) (nonempty : digits.toList ≠ [])

include h nonempty

/-- The positional layout moves the point, with zeros where the digits do not reach it. -/
theorem positional_decimalText (exponent : Int) (nonzero : digitsValue digits.toList ≠ 0) :
    ∃ shown place, DecimalText (positional digits exponent).toList shown place ∧
      ∀ negative, ofDecimal negative shown place =
        ofDecimal negative (digitsValue digits.toList) exponent := by
  have length : digits.toList.length = digits.length := String.length_toList
  simp only [positional]
  split
  · next whole =>
    have padded : ∀ c ∈ digits.toList ++ List.replicate exponent.toNat '0', c.isDigit = true :=
      fun c hc => (List.mem_append.mp hc).elim (h c) (isDigit_zeros _ c)
    have value : digitsValue (digits.toList ++ List.replicate exponent.toNat '0' ++ ['0']) =
        digitsValue digits.toList * 10 ^ (exponent.toNat + 1) := by
      rw [List.append_assoc, ← List.replicate_succ', digitsValue_zeros_after]
    have text : (digits ++ "".pushn '0' exponent.toNat ++ ".0").toList =
        digits.toList ++ List.replicate exponent.toNat '0' ++ '.' :: ['0'] := by simp [toList_zeros]
    rw [text]
    refine ⟨_, _, .pointed padded (isDigit_zeros 1) (by simp [nonempty]), fun negative => ?_⟩
    rw [value, ofDecimal_zeros _ _ _ nonzero]
    congr 1
    simp only [List.length_singleton]
    omega
  split
  · next inside =>
    generalize place : (digits.length + exponent).toNat = n
    have first : digits.toList.take n ≠ [] := by
      intro empty
      rcases List.take_eq_nil_iff.mp empty with zero | zero
      · omega
      · exact nonempty zero
    have text : (String.ofList (digits.toList.take n) ++ "." ++
        String.ofList (digits.toList.drop n)).toList =
        digits.toList.take n ++ '.' :: digits.toList.drop n := by simp
    rw [text]
    refine ⟨_, _, .pointed (fun c hc => h c (List.mem_of_mem_take hc))
      (fun c hc => h c (List.mem_of_mem_drop hc)) first, fun negative => ?_⟩
    rw [List.take_append_drop]
    congr 1
    rw [List.length_drop, length]
    omega
  · next small =>
    generalize place : (-(digits.length + exponent)).toNat = n
    have padded : ∀ c ∈ List.replicate n '0' ++ digits.toList, c.isDigit = true :=
      fun c hc => (List.mem_append.mp hc).elim (isDigit_zeros _ c) (h c)
    have text : ("0." ++ "".pushn '0' n ++ digits).toList =
        ['0'] ++ '.' :: (List.replicate n '0' ++ digits.toList) := by simp [toList_zeros]
    have value : digitsValue (['0'] ++ (List.replicate n '0' ++ digits.toList)) =
        digitsValue digits.toList := digitsValue_zeros_before digits.toList (n + 1)
    rw [text]
    refine ⟨_, _, .pointed (isDigit_zeros 1) padded (by simp), fun negative => ?_⟩
    rw [value]
    congr 1
    rw [List.length_append, List.length_replicate, length]
    omega

theorem scientific_decimalText (exponent : Int) :
    DecimalText (scientific digits exponent).toList (digitsValue digits.toList) exponent := by
  have length : digits.toList.length = digits.length := String.length_toList
  obtain ⟨c, cs, same⟩ := List.exists_cons_of_ne_nil nonempty
  have lead : ∀ x ∈ [c], x.isDigit = true := fun x hx => h x (by simp_all)
  have rest : ∀ x ∈ cs, x.isDigit = true := fun x hx => h x (by simp_all)
  simp only [scientific, same, List.take_succ_cons, List.take_zero, List.drop_succ_cons,
    List.drop_zero]
  rw [same, List.length_cons] at length
  split
  · next empty =>
    obtain rfl : cs = [] := by simpa using empty
    have power : (digits.length : Int) + exponent - 1 = exponent := by simp at length; omega
    simpa [power] using DecimalText.scaled lead (by simp) exponent
  · have layout := DecimalText.both lead rest (by simp) (digits.length + exponent - 1)
    have power : (digits.length : Int) + exponent - 1 - cs.length = exponent := by omega
    rw [power] at layout
    simpa using layout

end Layouts

theorem signedZero_units (negative : Bool) : (signedZero negative).units = 0 := by
  cases negative <;> rfl

theorem signedZero_isNegative (negative : Bool) : (signedZero negative).isNegative = negative := by
  cases negative <;> decide

theorem ofDecimal_zero (negative : Bool) (exponent : Int) :
    ofDecimal negative 0 exponent = signedZero negative := by
  simp [ofDecimal]

theorem eq_signedZero {d : Double} (h : d.units = 0) : d = signedZero d.isNegative :=
  eq_of_units (signedZero_isNegative _).symm (h.trans (signedZero_units _).symm)

theorem shortest_digits_ne_zero {d : Double} (number : d.isNaN = false) (h : d.units ≠ 0) :
    d.shortest.digits ≠ 0 := by
  intro zero
  have same := ofDecimal_shortest number h
  rw [zero, ofDecimal_zero] at same
  rw [← same, signedZero_units] at h
  exact h rfl

/-- The magnitude is written as a decimal that means it. -/
theorem magnitudeText_decimalText {d : Double} (number : d.isNaN = false) :
    ∃ digits exponent, DecimalText d.magnitudeText.toList digits exponent ∧
      ofDecimal d.isNegative digits exponent = d := by
  unfold magnitudeText
  by_cases zero : d.units = 0
  · have layout : DecimalText (['0'] ++ '.' :: ['0']) (digitsValue (['0'] ++ ['0'])) (-1) :=
      .pointed (isDigit_zeros 1) (isDigit_zeros 1) (by simp)
    rw [if_pos (by simpa [isZero] using zero)]
    exact ⟨_, _, layout, (ofDecimal_zero _ _).trans (eq_signedZero zero).symm⟩
  · rw [if_neg (by simpa [isZero] using zero)]
    have means := ofDecimal_shortest number zero
    have nonzero := strip_digits_pos d.shortest (shortest_digits_ne_zero number zero)
    rw [← ofDecimal_strip] at means
    generalize d.shortest.strip = decimal at means nonzero
    have digits : ∀ c ∈ (toString decimal.digits).toList, c.isDigit = true :=
      fun c => isDigit_of_mem_toString
    have nonempty := toString_ne_nil decimal.digits
    have value := digitsValue_toString decimal.digits
    simp only
    split
    · obtain ⟨shown, place, layout, same⟩ := positional_decimalText digits nonempty
        decimal.exponent (by rwa [value])
      exact ⟨shown, place, layout, by rw [same, value, means]⟩
    · have layout := scientific_decimalText digits nonempty decimal.exponent
      exact ⟨_, _, layout, by rw [value, means]⟩

theorem toLower_digit {c : Char} (h : c.isDigit = true) : c.toLower = c := by
  have small : ¬(c.val ≥ 'A'.val ∧ c.val ≤ 'Z'.val) := by
    simp only [Char.isDigit, Bool.and_eq_true, decide_eq_true_eq] at h
    intro upper
    exact absurd (UInt32.le_trans upper.1 h.2) (by decide)
  exact dif_neg small

theorem parse?_signed {text : String} {c : Char} {cs : List Char} (negative : Bool)
    (h : text.toList = c :: cs) (digit : c.isDigit = true) :
    parse? ((if negative then "-" else "") ++ text) = parseDecimal? negative (c :: cs) := by
  have other (x : Char) (hx : x.isDigit = false) : c ≠ x := by
    rintro rfl
    exact absurd digit (by simp [hx])
  have word (s : String) (hs : ∀ x ∈ s.toList.head?, x.isDigit = false) (he : s.toList ≠ []) :
      String.ofList ((c :: cs).map Char.toLower) ≠ s := by
    rintro rfl
    rw [String.toList_ofList, List.map_cons, toLower_digit digit] at hs
    exact absurd digit (by simp [hs c rfl])
  have inf := word "inf" (by rintro _ ⟨⟩; rfl) (by decide)
  have infinity := word "infinity" (by rintro _ ⟨⟩; rfl) (by decide)
  have nan := word "nan" (by rintro _ ⟨⟩; rfl) (by decide)
  cases negative with
  | true => simp [parse?, h, -List.map_cons, inf, infinity, nan]
  | false =>
    simp [parse?, h, -List.map_cons, inf, infinity, nan, other '-' (by decide), other '+' (by decide)]

theorem DecimalText.starts {text : List Char} {digits : Nat} {exponent : Int}
    (h : DecimalText text digits exponent) : ∃ c cs, text = c :: cs ∧ c.isDigit = true := by
  have first {before : List Char} (rest : List Char) (hb : ∀ c ∈ before, c.isDigit = true)
      (nonempty : before ≠ []) : ∃ c cs, before ++ rest = c :: cs ∧ c.isDigit = true := by
    obtain ⟨c, cs, rfl⟩ := List.exists_cons_of_ne_nil nonempty
    exact ⟨c, cs ++ rest, rfl, hb c (by simp)⟩
  cases h with
  | pointed hb _ nonempty => exact first _ hb nonempty
  | scaled hb nonempty => exact first _ hb nonempty
  | both hb _ nonempty => exact first _ hb nonempty

theorem eq_infinite {d : Double} (h : d.isInfinite = true) : d = infinite d.isNegative := by
  have parts : d.exponent = 2047 ∧ d.fraction = 0 := by simpa [isInfinite] using h
  have code : d.code = 0x7ff0000000000000 := by
    rw [code_eq, parts.1, parts.2]
  cases sign : d.isNegative with
  | true => exact eq_of_code (sign.trans (by decide)) (code.trans (by decide))
  | false => exact eq_of_code (sign.trans (by decide)) (code.trans (by decide))

/-- Reading a text gives back the double that it was written for. -/
theorem parse?_text (d : Double) : parse? d.text = some d := by
  unfold text
  by_cases nan : d.isNaN = true
  · rw [if_pos nan, eq_nan_iff.mp nan]
    rfl
  · have number : d.isNaN = false := by simpa using nan
    rw [if_neg nan]
    by_cases infinite : d.isInfinite = true
    · rw [if_pos infinite, eq_infinite infinite]
      cases d.isNegative <;> rfl
    · rw [if_neg infinite]
      obtain ⟨digits, exponent, layout, means⟩ := magnitudeText_decimalText number
      obtain ⟨c, cs, same, digit⟩ := layout.starts
      rw [parse?_signed d.isNegative same digit, ← same, layout.parse, means]

theorem text_inj {d e : Double} (h : d.text = e.text) : d = e := by
  have same : parse? d.text = parse? e.text := congrArg parse? h
  rw [parse?_text, parse?_text] at same
  exact Option.some.inj same

end Double

/-- The characters of numbers in texts, of words such as `inf` too. -/
def isNumeral (c : Char) : Bool := c.isAlphanum || c == '-' || c == '.'

theorem isNumeral_of_isDigit {c : Char} (h : c.isDigit = true) : isNumeral c = true := by
  simp [isNumeral, Char.isAlphanum, h]

theorem toString_int_inj {i j : Int} (h : toString i = toString j) : i = j := by
  have same := Double.parseExponent?_toString i
  rw [h, Double.parseExponent?_toString] at same
  exact (Option.some.inj same).symm

/-- The characters that numbers start with: of digits, a sign, `NaN` and `inf`. -/
def startsNumber (c : Char) : Bool := c.isDigit || c == '-' || c == 'N' || c == 'i'

theorem toString_int_starts (i : Int) :
    ∃ c cs, (toString i).toList = c :: cs ∧ startsNumber c = true := by
  rw [toList_toString_int]
  split
  · exact ⟨'-', _, rfl, rfl⟩
  · obtain ⟨c, cs, same⟩ := List.exists_cons_of_ne_nil (toString_ne_nil i.natAbs)
    have digit : c.isDigit = true := isDigit_of_mem_toString (by rw [same]; exact List.mem_cons_self)
    exact ⟨c, cs, same, by simp [startsNumber, digit]⟩

theorem toString_int_plain {i : Int} {c : Char} (h : c ∈ (toString i).toList) :
    c.isDigit = true ∨ c = '-' := by
  rw [toList_toString_int] at h
  rcases List.mem_append.mp h with sign | digit
  · split at sign
    · exact .inr (List.mem_singleton.mp sign)
    · contradiction
  · exact .inl (isDigit_of_mem_toString digit)

theorem toString_int_numeral {i : Int} : ∀ c ∈ (toString i).toList, isNumeral c = true := by
  intro c h
  rcases toString_int_plain h with digit | rfl
  · exact isNumeral_of_isDigit digit
  · rfl

namespace Double

theorem DecimalText.numeral {text : List Char} {digits : Nat} {exponent : Int}
    (h : DecimalText text digits exponent) : ∀ c ∈ text, isNumeral c = true := by
  have digit {ds : List Char} (hd : ∀ c ∈ ds, c.isDigit = true) (c : Char) (hc : c ∈ ds) :
      isNumeral c = true := isNumeral_of_isDigit (hd c hc)
  intro c hc
  cases h with
  | pointed hb ha =>
    simp only [List.mem_append, List.mem_cons] at hc
    rcases hc with hc | rfl | hc
    · exact digit hb c hc
    · rfl
    · exact digit ha c hc
  | scaled hb _ =>
    simp only [List.mem_append, List.mem_cons] at hc
    rcases hc with hc | rfl | hc
    · exact digit hb c hc
    · rfl
    · exact toString_int_numeral c hc
  | both hb ha _ power =>
    simp only [List.mem_append, List.mem_cons] at hc
    rcases hc with hc | rfl | hc | rfl | hc
    · exact digit hb c hc
    · rfl
    · exact digit ha c hc
    · rfl
    · exact toString_int_numeral c hc

/-- A point or an exponent mark tells a decimal from an integer. -/
theorem DecimalText.marked {text : List Char} {digits : Nat} {exponent : Int}
    (h : DecimalText text digits exponent) : ∃ c ∈ text, c.isDigit = false ∧ c ≠ '-' := by
  cases h with
  | pointed => exact ⟨'.', by simp, by decide⟩
  | scaled => exact ⟨'e', by simp, by decide⟩
  | both => exact ⟨'.', by simp, by decide⟩

theorem text_numeral (d : Double) : ∀ c ∈ d.text.toList, isNumeral c = true := by
  unfold text
  by_cases nan : d.isNaN = true
  · rw [if_pos nan]
    exact List.all_eq_true.mp (by decide)
  · rw [if_neg nan]
    have number : d.isNaN = false := by simpa using nan
    intro c hc
    rw [String.toList_append] at hc
    rcases List.mem_append.mp hc with sign | magnitude
    · cases hd : d.isNegative <;> simp [hd] at sign
      subst sign
      rfl
    · by_cases infinite : d.isInfinite = true
      · rw [if_pos infinite] at magnitude
        have word : "inf".toList.all isNumeral = true := by decide
        exact List.all_eq_true.mp word c magnitude
      · rw [if_neg infinite] at magnitude
        obtain ⟨_, _, layout, _⟩ := magnitudeText_decimalText number
        exact layout.numeral c magnitude

theorem text_starts (d : Double) : ∃ c cs, d.text.toList = c :: cs ∧ startsNumber c = true := by
  unfold text
  by_cases nan : d.isNaN = true
  · rw [if_pos nan]
    exact ⟨'N', _, rfl, rfl⟩
  · rw [if_neg nan, String.toList_append]
    cases d.isNegative with
    | true => exact ⟨'-', _, rfl, rfl⟩
    | false =>
      by_cases infinite : d.isInfinite = true
      · rw [if_pos infinite]
        exact ⟨'i', _, rfl, rfl⟩
      · rw [if_neg infinite]
        obtain ⟨_, _, layout, _⟩ := magnitudeText_decimalText (Bool.not_eq_true _ ▸ nan)
        obtain ⟨c, cs, same, digit⟩ := layout.starts
        exact ⟨c, cs, same, by simp [startsNumber, digit]⟩

theorem text_marked {d : Double} (number : d.isNaN = false) :
    ∃ c ∈ d.text.toList, c.isDigit = false ∧ c ≠ '-' := by
  unfold text
  rw [if_neg (by simp [number]), String.toList_append]
  by_cases infinite : d.isInfinite = true
  · rw [if_pos infinite]
    exact ⟨'i', by simp, by decide⟩
  · rw [if_neg infinite]
    obtain ⟨_, _, layout, _⟩ := magnitudeText_decimalText number
    obtain ⟨c, hc, other⟩ := layout.marked
    exact ⟨c, List.mem_append_right _ hc, other⟩

end Double
end DocQuery
