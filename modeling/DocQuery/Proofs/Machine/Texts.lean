import DocQuery.Eval.Text
import DocQuery.Proofs.Machine.Operations

/-! Cutting texts on the machine. Characters are counted from either end, bytes from the front, and a text is only ever
cut between two of its characters. -/
namespace DocQuery
namespace Machine

/-- The length of a text in UTF-8. -/
def byteSize : List Char → Nat
  | [] => 0
  | c :: cs => c.utf8Size + byteSize cs

/-- A text as memory holds it. -/
structure Text where
  chars : List Char
  fits : byteSize chars < 0x8000000000000000

theorem byteSize_append (as bs : List Char) : byteSize (as ++ bs) = byteSize as + byteSize bs := by
  induction as with
  | nil => exact (Nat.zero_add _).symm
  | cons a as ih => rw [List.cons_append, byteSize, byteSize, ih, Nat.add_assoc]

theorem length_le_byteSize (cs : List Char) : cs.length ≤ byteSize cs := by
  induction cs with
  | nil => exact Nat.le_refl 0
  | cons c cs ih =>
    rw [byteSize, List.length_cons, Nat.add_comm]
    exact Nat.add_le_add c.utf8Size_pos ih

section Slice

/-- Where a slice begins; the sum of the length and a position stays a signed word. -/
def sliceStart (total position : Int) : Int :=
  if position < 0 then max (saturate (total + position)) 0 else min position total

/-- Where a slice of at most a number of characters ends. -/
def sliceStop (total start : Int) : Option Int → Int
  | some count => min (saturate (start + count)) total
  | none => total

def slice (text : Text) (position : Int) (count : Option Int) : Run (List Char) :=
  let total : Int := text.chars.length
  let start := sliceStart total position
  part text.chars (asSize start) (asSize (sliceStop total start count))

theorem sliceStart_eq {total : Nat} (fits : total < 0x8000000000000000) (position : Int64) :
    sliceStart total position.toInt = TextFunction.sliceStart total position.toInt := by
  have low := position.le_toInt
  have high := position.toInt_lt
  rw [sliceStart, saturate, TextFunction.sliceStart]
  split <;> omega

theorem sliceStart_le (total : Nat) (position : Int) : TextFunction.sliceStart total position ≤ total := by
  rw [TextFunction.sliceStart]
  split <;> omega

/-- Both ends of a slice are within the text and in order, so it can be taken. -/
theorem slice_eq (text : Text) (position : Int64) (count : Option Int64) (counts : ∀ n ∈ count, 0 ≤ n.toInt) :
    slice text position.toInt (count.map Int64.toInt) =
      .ok (TextFunction.slice text.chars position.toInt (count.map Int64.toInt)) := by
  have fits : text.chars.length < 0x8000000000000000 := Nat.lt_of_le_of_lt (length_le_byteSize _) text.fits
  have inside := sliceStart_le text.chars.length position.toInt
  have begins : asSize (TextFunction.sliceStart text.chars.length position.toInt) =
      TextFunction.sliceStart text.chars.length position.toInt := asSize_eq (by omega) (by omega)
  rw [slice, sliceStart_eq fits]
  cases count with
  | none =>
    have ends : asSize (text.chars.length : Int) = text.chars.length := asSize_eq (by omega) (by omega)
    rw [Option.map_none, sliceStop, begins, ends, part_eq inside (Nat.le_refl _), ← List.length_drop, List.take_length]
    rfl
  | some n =>
    have positive := counts n rfl
    have bound := n.toInt_lt
    rw [Option.map_some, TextFunction.slice]
    generalize TextFunction.sliceStart text.chars.length position.toInt = start at inside begins ⊢
    have stop : sliceStop text.chars.length start (some n.toInt) =
        (min (start + n.toInt.toNat) text.chars.length : Nat) := by
      rw [sliceStop, saturate]
      omega
    have ends : asSize (sliceStop text.chars.length start (some n.toInt)) =
        min (start + n.toInt.toNat) text.chars.length := by
      rw [stop]
      exact asSize_eq (by omega) (by omega)
    rw [begins, ends, part_eq (by omega) (Nat.min_le_right _ _)]
    congr 1
    rw [List.take_eq_take_iff, List.length_drop]
    omega

end Slice

section Wildcards

/-- The rest of a text from a byte on, which must be the first of a character or come right after the last. -/
def cutFrom : List Char → Nat → Run (List Char)
  | cs, 0 => return cs
  | [], i + 1 => throw (.position (i + 1) 0)
  | c :: cs, i + 1 => if c.utf8Size ≤ i + 1 then cutFrom cs (i + 1 - c.utf8Size) else throw .insideCharacter

/-- The characters of a text with the places of their first bytes, counted from a number on. -/
def charIndices (i : Nat) : List Char → List (Nat × Char)
  | [] => []
  | c :: cs => (i, c) :: charIndices (i + c.utf8Size) cs

def lineEnds (i : Nat) : List Char → List Nat
  | [] => []
  | c :: cs => if c = '\n' then i :: lineEnds (i + c.utf8Size) cs else lineEnds (i + c.utf8Size) cs

/-- Whether a needle is found at a byte of a text and reaches beyond the last end of a line. -/
def reaches (text needle : List Char) (last i : Nat) : Run Bool := do
  if needle.isPrefixOf (← cutFrom text i) then return decide (last < (← plus i (byteSize needle))) else return false

/-- Whether an occurrence of a needle starts at or before the first end of a line and ends after the last. -/
def containsOnLine (text needle : Text) : Run Bool :=
  let ends := lineEnds 0 text.chars
  match ends.head?, ends.getLast? with
  | some first, some last =>
    ((charIndices 0 text.chars).takeWhile (·.1 ≤ first)).anyM (reaches text.chars needle.chars last ·.1)
  | _, _ => return containsText needle.chars text.chars

/-- Every character begins where a text can be cut. -/
theorem cutFrom_append (front back : List Char) : cutFrom (front ++ back) (byteSize front) = .ok back := by
  induction front with
  | nil => cases back <;> rfl
  | cons c front ih =>
    have some_bytes : byteSize (c :: front) ≠ 0 := by
      have := c.utf8Size_pos
      rw [byteSize]
      omega
    obtain ⟨i, size⟩ := Nat.exists_eq_succ_of_ne_zero some_bytes
    rw [size, List.cons_append, cutFrom, ← Nat.succ_eq_add_one, ← size, byteSize,
      if_pos (Nat.le_add_right _ _), Nat.add_sub_cancel_left]
    exact ih

/-- A cut is refused only where there is no character's first byte. -/
example : cutFrom ['é', 'a'] 2 = .ok ['a'] ∧ cutFrom ['é', 'a'] 1 = .error .insideCharacter := ⟨rfl, rfl⟩

theorem lineEnds_append (i : Nat) (as bs : List Char) :
    lineEnds i (as ++ bs) = lineEnds i as ++ lineEnds (i + byteSize as) bs := by
  induction as generalizing i with
  | nil => rfl
  | cons a as ih =>
    rw [List.cons_append, lineEnds, lineEnds, ih, byteSize, Nat.add_assoc]
    split <;> rfl

theorem lineEnds_bounds {i place : Nat} {cs : List Char} (h : place ∈ lineEnds i cs) :
    i ≤ place ∧ place < i + byteSize cs := by
  induction cs generalizing i with
  | nil => cases h
  | cons c cs ih =>
    have positive := c.utf8Size_pos
    rw [byteSize]
    rw [lineEnds] at h
    split at h
    next =>
      cases h with
      | head => omega
      | tail _ h => have := ih h; omega
    next => have := ih h; omega

theorem lineEnds_eq_nil {i : Nat} {cs : List Char} : lineEnds i cs = [] ↔ '\n' ∉ cs := by
  induction cs generalizing i with
  | nil => simp [lineEnds]
  | cons c cs ih =>
    by_cases newline : c = '\n'
    · simp [lineEnds, newline]
    · simp [lineEnds, newline, ih, Ne.symm newline]

theorem hasNewline_eq (i : Nat) (cs : List Char) : Pattern.hasNewline cs = !(lineEnds i cs).isEmpty := by
  rw [Bool.eq_iff_iff, Pattern.hasNewline, Bool.not_eq_true', List.isEmpty_eq_false_iff, ne_eq, lineEnds_eq_nil]
  simp

/-- What follows an occurrence has no end of a line if and only if the occurrence reaches beyond the last. -/
theorem reaches_last {i last : Nat} {front back : List Char} (h : (lineEnds i (front ++ back)).getLast? = some last) :
    decide (last < i + byteSize front) = !Pattern.hasNewline back := by
  rw [hasNewline_eq (i + byteSize front), Bool.not_not, Bool.eq_iff_iff, decide_eq_true_eq, List.isEmpty_iff]
  rw [lineEnds_append] at h
  cases ends : lineEnds (i + byteSize front) back with
  | nil =>
    rw [ends, List.append_nil] at h
    exact iff_of_true (lineEnds_bounds (List.mem_of_getLast? h)).2 rfl
  | cons =>
    rw [List.getLast?_append, ends, List.getLast?_cons, Option.some_or, ← List.getLast?_cons, ← ends] at h
    exact iff_of_false (Nat.not_lt.mpr (lineEnds_bounds (List.mem_of_getLast? h)).1) (List.cons_ne_nil _ _)

theorem containsText_eq {text : List Char} (line : '\n' ∉ text) (needle : List Char) :
    containsText needle text = Pattern.containsOnLine needle text := by
  induction text with
  | nil => rfl
  | cons c cs ih =>
    have after : Pattern.hasNewline ((c :: cs).drop needle.length) = false := by
      simpa [Pattern.hasNewline] using fun newline => line (List.mem_of_mem_drop newline)
    obtain ⟨other, line⟩ := not_or.mp (mt List.mem_cons.mpr line)
    rw [containsText, Pattern.containsOnLine, after, Bool.not_false, Bool.and_true, ih line]
    simp [Ne.symm other]

/-- One place of a text: the text is cut there without stopping, and the rest of it decides. -/
theorem reaches_eq {before after needle : List Char} {last : Nat}
    (fits : byteSize (before ++ after) < 0x8000000000000000) (needle_fits : byteSize needle < 0x8000000000000000)
    (h : (lineEnds (byteSize before) after).getLast? = some last) :
    reaches (before ++ after) needle last (byteSize before) =
      .ok (needle.isPrefixOf after && !Pattern.hasNewline (after.drop needle.length)) := by
  have sum : plus (byteSize before) (byteSize needle) = .ok (byteSize before + byteSize needle) := by
    rw [byteSize_append] at fits
    exact plus_eq (by omega)
  rw [reaches, cutFrom_append]
  cases found : needle.isPrefixOf after with
  | false => simp [bind, Except.bind, found, pure, Except.pure]
  | true =>
    obtain ⟨back, rfl⟩ := List.isPrefixOf_iff_prefix.mp found
    rw [List.drop_left, Bool.true_and, ← reaches_last h]
    simp [bind, Except.bind, found, sum, pure, Except.pure]

theorem takeWhile_charIndices {first i : Nat} (beyond : first < i) (cs : List Char) :
    (charIndices i cs).takeWhile (·.1 ≤ first) = [] := by
  cases cs with
  | nil => rfl
  | cons c cs => rw [charIndices, List.takeWhile_cons_of_neg (by simpa using beyond)]

theorem anyM_cons {α : Type} {p : α → Run Bool} {a : α} {found : Bool} (h : p a = .ok found) (items : List α) :
    (a :: items).anyM p = if found then .ok true else items.anyM p := by
  rw [List.anyM, h]
  cases found <;> rfl

/-- The places from a character on that are tried. The induction stops with the line that the character is on. -/
theorem anyM_reaches {needle : List Char} (needle_fits : byteSize needle < 0x8000000000000000) {first last : Nat}
    (before after : List Char) (fits : byteSize (before ++ after) < 0x8000000000000000)
    (head : (lineEnds (byteSize before) after).head? = some first)
    (tail : (lineEnds (byteSize before) after).getLast? = some last) :
    ((charIndices (byteSize before) after).takeWhile (·.1 ≤ first)).anyM (reaches (before ++ after) needle last ·.1) =
      .ok (Pattern.containsOnLine needle after) := by
  induction after generalizing before with
  | nil => cases head
  | cons c cs ih =>
    have here := reaches_eq fits needle_fits tail
    have reached : byteSize before ≤ first := (lineEnds_bounds (List.mem_of_head? head)).1
    have next : byteSize (before ++ [c]) = byteSize before + c.utf8Size := byteSize_append before [c]
    rw [charIndices, List.takeWhile_cons_of_pos (by simpa using reached),
      anyM_cons (a := (byteSize before, c)) (p := fun place => reaches (before ++ c :: cs) needle last place.1) here,
      Pattern.containsOnLine]
    rw [lineEnds] at head tail
    by_cases newline : c = '\n'
    · rw [if_pos newline, List.head?_cons, Option.some_inj] at head
      rw [takeWhile_charIndices (head ▸ Nat.lt_add_of_pos_right c.utf8Size_pos)]
      cases needle.isPrefixOf (c :: cs) && !Pattern.hasNewline ((c :: cs).drop needle.length) <;>
        simp [newline, List.anyM, pure, Except.pure]
    · rw [if_neg newline, ← next] at head tail
      have rest := ih (before ++ [c]) (by rwa [List.append_cons] at fits) head tail
      rw [next, ← List.append_cons] at rest
      rw [rest]
      cases needle.isPrefixOf (c :: cs) && !Pattern.hasNewline ((c :: cs).drop needle.length) <;> simp [newline]

/-- Patterns that look for a text find it without stopping. -/
theorem containsOnLine_eq (text needle : Text) :
    containsOnLine text needle = .ok (Pattern.containsOnLine needle.chars text.chars) := by
  rw [containsOnLine]
  cases head : (lineEnds 0 text.chars).head? with
  | none =>
    have line := lineEnds_eq_nil.mp (List.head?_eq_none_iff.mp head)
    exact congrArg Except.ok (containsText_eq line _)
  | some first =>
    cases tail : (lineEnds 0 text.chars).getLast? with
    | none => rw [List.getLast?_eq_none_iff.mp tail] at head; cases head
    | some last => exact anyM_reaches needle.fits [] text.chars text.fits head tail

end Wildcards

end Machine
end DocQuery
