import DocQuery.Json.Reader
import DocQuery.Proofs.Text.Reading

/-! Reading objects of texts. Where every character is spelled in a way that stands for it inside quotes, what is read
of a quoted text is the text, and what is read of an object is its members in order. -/
namespace DocQuery

/-- An object of texts. -/
def Json.ofTexts (members : List (String × String)) : Json :=
  .object (members.map fun (key, value) => (some key, .string (some value)))

namespace JsonReader

theorem skipBlanks_cons {c : Char} (h : isBlank c = false) (cs : List Char) : skipBlanks (c :: cs) = c :: cs :=
  List.dropWhile_cons_of_neg (by simp [h])

section Characters

variable {c : Char}

/-- Inside quotes, the text is read as one character. -/
def Spells (text : List Char) (c : Char) : Prop :=
  ∀ fuel rest, readUnits (fuel + 1) (text ++ rest) =
    (readUnits fuel rest).map fun (units, rest) => (.char c :: units, rest)

theorem spells_itself (quote : c ≠ '"') (backslash : c ≠ '\\') (printed : 32 ≤ c.toNat) : Spells [c] c := by
  intro fuel rest
  rw [List.singleton_append, readUnits.eq_def]
  simp only [if_neg quote, if_neg backslash, if_neg (Nat.not_lt.mpr printed)]
  cases readUnits fuel rest <;> rfl

theorem spells_mark {mark : Char} (h : simpleEscape? mark = some c) : Spells ['\\', mark] c := by
  intro fuel rest
  have other : mark ≠ 'u' := by
    rintro rfl
    contradiction
  rw [List.cons_append, List.singleton_append, readUnits, if_neg (by decide), if_pos rfl, h]
  · cases readUnits fuel rest <;> rfl
  · exact other

theorem hexDigit?_digitChar {d : Nat} (h : d < 16) : hexDigit? d.digitChar = some d := by
  have table : ∀ i : Fin 16, hexDigit? i.val.digitChar = some i.val := by decide
  exact table ⟨d, h⟩

theorem readUnit_digits {n : Nat} (h : n < 256) (rest : List Char) :
    readUnit ('0' :: '0' :: (n / 16).digitChar :: (n % 16).digitChar :: rest) = some (n, rest) := by
  have zero : hexDigit? '0' = some 0 := rfl
  have value : (0 * 16 + 0) * 16 + n / 16 = n / 16 := by omega
  simp only [readUnit, zero, hexDigit?_digitChar (by omega : n / 16 < 16),
    hexDigit?_digitChar (Nat.mod_lt n (by decide)), Option.bind_eq_bind, Option.bind_some, value]
  exact congrArg (fun code => some (code, rest)) (Nat.div_add_mod' n 16)

theorem spells_code (h : c.toNat < 256) :
    Spells ['\\', 'u', '0', '0', (c.toNat / 16).digitChar, (c.toNat % 16).digitChar] c := by
  intro fuel rest
  have unit : unitOfCode c.toNat = .char c := by
    rw [unitOfCode, if_neg (by omega), if_neg (by omega), Char.ofNat_toNat]
  simp only [List.cons_append, List.nil_append]
  rw [readUnits, if_neg (by decide), if_pos rfl]
  simp only [readUnit_digits h, Option.bind_eq_bind, Option.bind_some, unit]
  cases readUnits fuel rest <;> rfl

/-- The end of the text is read as soon as it is reached, and a character takes a step. -/
theorem Spells.ne_nil {text : List Char} (spells : Spells text c) : text ≠ [] := by
  rintro rfl
  have read := spells 0 ['"']
  contradiction

end Characters

section Texts

variable {spell : Char → List Char} {fuel : Nat}

theorem readUnits_spelled (spells : ∀ c, Spells (spell c) c) {cs : List Char} (enough : cs.length < fuel)
    (rest : List Char) : readUnits fuel (cs.flatMap spell ++ '"' :: rest) = some (cs.map .char, rest) := by
  induction cs generalizing fuel with
  | nil =>
    obtain ⟨fuel, rfl⟩ := Nat.exists_eq_succ_of_ne_zero (Nat.ne_zero_of_lt enough)
    rfl
  | cons c cs ih =>
    obtain ⟨fuel, rfl⟩ := Nat.exists_eq_succ_of_ne_zero (Nat.ne_zero_of_lt enough)
    rw [List.flatMap_cons, List.append_assoc, spells c, ih (Nat.lt_of_succ_lt_succ enough)]
    rfl

theorem joinUnits_chars (cs : List Char) : joinUnits (cs.map .char) = some cs := by
  induction cs with
  | nil => rfl
  | cons c cs ih => rw [List.map_cons, joinUnits, ih, Option.map_some]

theorem length_le_spelled (spells : ∀ c, Spells (spell c) c) (cs : List Char) :
    cs.length ≤ (cs.flatMap spell).length := by
  induction cs with
  | nil => exact Nat.zero_le _
  | cons c cs ih =>
    have some_place := List.length_pos_iff.mpr (spells c).ne_nil
    rw [List.flatMap_cons, List.length_append, List.length_cons]
    omega

theorem readText_spelled (spells : ∀ c, Spells (spell c) c) (s : String) (rest : List Char) :
    readText (s.toList.flatMap spell ++ '"' :: rest) = some (some s, rest) := by
  have enough : s.toList.length < (s.toList.flatMap spell ++ '"' :: rest).length + 1 := by
    have := length_le_spelled spells s.toList
    rw [List.length_append]
    omega
  rw [readText, readUnits_spelled spells enough]
  simp [joinUnits_chars]

end Texts

section Objects

variable {quote : String → List Char} {fuel : Nat}

/-- What is quoted is read back, whatever comes behind it. -/
def Quotes (quote : String → List Char) : Prop :=
  ∀ s rest, ∃ body, quote s ++ rest = '"' :: body ∧ readText body = some (some s, rest)

theorem quotes_spelled {spell : Char → List Char} (spells : ∀ c, Spells (spell c) c) :
    Quotes fun s => '"' :: s.toList.flatMap spell ++ ['"'] := by
  intro s rest
  exact ⟨s.toList.flatMap spell ++ '"' :: rest, by simp, readText_spelled spells s rest⟩

/-- A key and its value as they are written. -/
def memberText (quote : String → List Char) (m : String × String) : List Char := quote m.1 ++ ':' :: quote m.2

/-- A key and its value, with what comes behind them still to be read. -/
theorem reads_member (quotes : Quotes quote) (key value : String) (rest : List Char) :
    ∃ body after, quote key ++ ':' :: (quote value ++ rest) = '"' :: body ∧
      readText body = some (some key, ':' :: after) ∧
      ∀ fuel, readValue (fuel + 1) after = some (.string (some value), rest) := by
  obtain ⟨body, opens, read⟩ := quotes key (':' :: (quote value ++ rest))
  refine ⟨body, quote value ++ rest, opens, read, fun fuel => ?_⟩
  obtain ⟨second, opens', read'⟩ := quotes value rest
  rw [opens', readValue, skipBlanks_cons rfl]
  simp [read']

theorem readMembers_more (quotes : Quotes quote) (key value : String) (fuel : Nat) (rest : List Char) :
    readMembers (fuel + 2) (quote key ++ ':' :: (quote value ++ ',' :: rest)) =
      (readMembers (fuel + 1) rest).map fun (members, rest) =>
        ((some key, .string (some value)) :: members, rest) := by
  obtain ⟨body, after, opens, read, value_read⟩ := reads_member quotes key value (',' :: rest)
  rw [opens, readMembers, skipBlanks_cons rfl]
  simp only [read, Option.bind_eq_bind, Option.bind_some, skipBlanks_cons (c := ':') rfl, value_read,
    skipBlanks_cons (c := ',') rfl]
  cases readMembers (fuel + 1) rest <;> rfl

theorem readMembers_last (quotes : Quotes quote) (key value : String) (rest : List Char) :
    readMembers (fuel + 2) (quote key ++ ':' :: (quote value ++ '\x7d' :: rest)) =
      some ([(some key, .string (some value))], rest) := by
  obtain ⟨body, after, opens, read, value_read⟩ := reads_member quotes key value ('\x7d' :: rest)
  rw [opens, readMembers, skipBlanks_cons rfl]
  simp only [read, Option.bind_eq_bind, Option.bind_some, skipBlanks_cons (c := ':') rfl, value_read,
    skipBlanks_cons (c := '\x7d') rfl, Option.pure_def]

/-- The induction is on the members behind the first; each takes one step of the reader. -/
theorem readMembers_texts (quotes : Quotes quote) (first : String × String) {others : List (String × String)}
    (enough : others.length + 1 < fuel) (rest : List Char) :
    readMembers fuel (commas ((first :: others).map (memberText quote)) ++ '\x7d' :: rest) =
      some ((first :: others).map fun m => (some m.1, .string (some m.2)), rest) := by
  obtain ⟨fuel, rfl⟩ : ∃ n, fuel = n + 2 := ⟨fuel - 2, by omega⟩
  induction others generalizing first fuel with
  | nil => simpa [commas, memberText] using readMembers_last quotes first.1 first.2 rest
  | cons next others ih =>
    obtain ⟨fuel, rfl⟩ : ∃ n, fuel = n + 1 := ⟨fuel - 1, by simp at enough; omega⟩
    have later := ih next fuel (by simpa using enough)
    have step := readMembers_more quotes first.1 first.2 (fuel + 1)
      (commas ((next :: others).map (memberText quote)) ++ '\x7d' :: rest)
    rw [later] at step
    simpa [commas_cons, memberText] using step

theorem readValue_object (body : List Char) : readValue (fuel + 1) ('\x7b' :: '"' :: body) =
    (readMembers fuel ('"' :: body)).map fun (members, rest) => (.object members, rest) := by
  rw [readValue, skipBlanks_cons rfl]
  simp only [skipBlanks_cons (c := '"') rfl]
  split
  next closed => simp at closed
  next => cases readMembers fuel ('"' :: body) <;> rfl

theorem length_le_commas (texts : List (List Char)) : texts.length ≤ (commas texts).length + 1 := by
  have between (texts : List (List Char)) : texts.length ≤ (texts.flatMap (',' :: ·)).length := by
    induction texts with
    | nil => exact Nat.le_refl 0
    | cons text texts ih =>
      rw [List.flatMap_cons, List.length_append, List.length_cons, List.length_cons]
      omega
  cases texts with
  | nil => exact Nat.zero_le _
  | cons text texts =>
    rw [commas_cons, List.length_append, List.length_cons]
    have := between texts
    omega

/-- An object with a member, on a line of its own. -/
theorem parse?_texts (quotes : Quotes quote) {members : List (String × String)} (nonempty : members ≠ []) :
    Json.parse? (String.ofList ('\x7b' :: commas (members.map (memberText quote)) ++ ['\x7d', '\n'])) =
      some (.ofTexts members) := by
  obtain ⟨first, others, rfl⟩ := List.exists_cons_of_ne_nil nonempty
  have size := length_le_commas ((first :: others).map (memberText quote))
  rw [List.length_map, List.length_cons] at size
  have inside (fuel : Nat) (enough : others.length + 1 < fuel) := readMembers_texts quotes first enough ['\n']
  obtain ⟨body, written⟩ : ∃ body, commas ((first :: others).map (memberText quote)) = '"' :: body := by
    obtain ⟨opening, opens, -⟩ := quotes first.1 []
    rw [List.append_nil] at opens
    rw [List.map_cons, commas_cons, memberText, opens]
    exact ⟨_, rfl⟩
  rw [written] at size inside ⊢
  have length : ('\x7b' :: ('"' :: body) ++ ['\x7d', '\n']).length = body.length + 4 := by simp
  rw [Json.parse?, String.toList_ofList, String.length_ofList, length, List.cons_append, List.cons_append,
    readValue_object, ← List.cons_append, inside _ (by simp at size; omega)]
  rfl

end Objects

end JsonReader
end DocQuery
