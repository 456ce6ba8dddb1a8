import DocQuery.Log.Line
import DocQuery.Proofs.Entries
import DocQuery.Proofs.Json.Texts

/-! Log lines as texts. A line ends where it should and nowhere else, and what is read of it are the event, the
severity and the fields by key, whatever characters are in them. -/
namespace DocQuery
namespace LogLine

section Characters

/-- A character stands for itself, or has a mark, or is a control that is written as its code. -/
theorem escape_cases (c : Char) :
    (escape c = [c] ∧ c ≠ '"' ∧ c ≠ '\\' ∧ isControl c = false) ∨
      (∃ mark, escape c = ['\\', mark] ∧ JsonReader.simpleEscape? mark = some c ∧ isControl mark = false) ∨
      escape c = codeEscape c ∧ isControl c = true := by
  unfold escape
  split
  iterate 5 exact .inr (.inl ⟨_, rfl, rfl, rfl⟩)
  next quote backslash _ _ _ =>
    split
    next control => exact .inr (.inr ⟨rfl, control⟩)
    next printed => exact .inl ⟨rfl, quote, backslash, by simpa using printed⟩

theorem isControl_iff {c : Char} : isControl c = true ↔ c.toNat < 0x20 ∨ 0x7F ≤ c.toNat ∧ c.toNat < 0xA0 := by
  simp [isControl]

theorem spells_escape (c : Char) : JsonReader.Spells (escape c) c := by
  rcases escape_cases c with ⟨same, quote, backslash, printed⟩ | ⟨mark, same, short, _⟩ | ⟨same, control⟩ <;>
    rw [same]
  · rw [← Bool.not_eq_true, isControl_iff] at printed
    exact JsonReader.spells_itself quote backslash (by omega)
  · exact JsonReader.spells_mark short
  · rw [isControl_iff] at control
    exact JsonReader.spells_code (by omega)

theorem isControl_digitChar {n : Nat} (h : n < 16) : isControl n.digitChar = false := by
  have table : ∀ i : Fin 16, isControl i.val.digitChar = false := by decide
  exact table ⟨n, h⟩

theorem isControl_of_mem_escape {c d : Char} (h : d ∈ escape c) : isControl d = false := by
  rcases escape_cases c with ⟨same, _, _, printed⟩ | ⟨mark, same, _, printed⟩ | ⟨same, control⟩ <;>
    rw [same] at h
  · rwa [List.mem_singleton.mp h]
  · rcases List.mem_pair.mp h with rfl | rfl
    · rfl
    · exact printed
  · rw [isControl_iff] at control
    simp only [codeEscape, List.mem_cons, List.not_mem_nil, or_false] at h
    rcases h with rfl | rfl | rfl | rfl | rfl | rfl
    iterate 4 rfl
    · exact isControl_digitChar (by omega)
    · exact isControl_digitChar (Nat.mod_lt _ (by decide))

end Characters

section Lines

variable (line : LogLine)

theorem quotes_quoted : JsonReader.Quotes quoted := JsonReader.quotes_spelled spells_escape

theorem isControl_of_mem_quoted {s : String} {c : Char} (h : c ∈ quoted s) : isControl c = false := by
  simp only [quoted, List.cons_append, List.mem_cons, List.mem_append, List.mem_flatMap, List.not_mem_nil,
    or_false] at h
  rcases h with rfl | ⟨_, _, h⟩ | rfl
  · rfl
  · exact isControl_of_mem_escape h
  · rfl

theorem isControl_of_mem_member {field : String × String} {c : Char} (h : c ∈ member field) :
    isControl c = false := by
  rcases List.mem_append.mp h with h | h
  · exact isControl_of_mem_quoted h
  · rcases List.mem_cons.mp h with rfl | h
    · rfl
    · exact isControl_of_mem_quoted h

theorem isControl_of_mem_commas {fields : List (String × String)} {c : Char} (h : c ∈ commas (fields.map member)) :
    isControl c = false := by
  cases fields with
  | nil => contradiction
  | cons first others =>
    rw [List.map_cons, commas_cons, List.mem_append, List.flatMap_map, List.mem_flatMap] at h
    rcases h with h | ⟨field, _, h⟩
    · exact isControl_of_mem_member h
    · rcases List.mem_cons.mp h with rfl | h
      · rfl
      · exact isControl_of_mem_member h

/-- The braces and what is between them. -/
def object : List Char := '\x7b' :: commas (line.members.map member) ++ ['\x7d']

theorem toList_text : line.text.toList = line.object ++ ['\n'] := by
  rw [text, String.toList_ofList, object, List.append_assoc]
  rfl

theorem isControl_of_mem_object {c : Char} (h : c ∈ line.object) : isControl c = false := by
  rcases List.mem_append.mp h with h | h
  · rcases List.mem_cons.mp h with rfl | h
    · rfl
    · exact isControl_of_mem_commas h
  · rw [List.mem_singleton.mp h]
    rfl

theorem parse?_text : Json.parse? line.text = some (.ofTexts line.members) :=
  JsonReader.parse?_texts quotes_quoted (List.cons_ne_nil _ _)

/-- Every line is one object of texts, which is read back as it was written, and ends with the only control in it. So
fields with distinct keys can be given in any order. -/
theorem text_decodes (line : LogLine) :
    (∃ object, line.text.toList = object ++ ['\n'] ∧ '\n' ∉ object ∧
        ∀ c ∈ object, ¬ (c.toNat < 0x20 ∨ 0x7F ≤ c.toNat ∧ c.toNat < 0xA0)) ∧
      (∃ sorted, Entries.StablySorted line.fields sorted ∧ Json.parse? line.text =
        some (.ofTexts (("event", line.event) :: ("severity", line.severity.name) :: sorted))) ∧
      ∀ fields, (Entries.keys line.fields).Nodup → fields.Perm line.fields →
        ({ line with fields } : LogLine).text = line.text := by
  have printed (c : Char) (h : c ∈ line.object) : ¬ (c.toNat < 0x20 ∨ 0x7F ≤ c.toNat ∧ c.toNat < 0xA0) := by
    rw [← isControl_iff, line.isControl_of_mem_object h]
    exact Bool.false_ne_true
  refine ⟨⟨line.object, line.toList_text, fun newline => ?_, printed⟩,
    ⟨_, Entries.stablySorted_sortByKey line.fields, line.parse?_text⟩, fun fields distinct perm => ?_⟩
  · exact printed _ newline (.inl (by decide))
  · have same : ({ line with fields } : LogLine).members = line.members := by
      rw [members, members, Entries.sortByKey_eq_of_perm distinct perm]
    rw [text, text, same]

/-- Two fields in either order, with a quote, a backslash, a newline, and controls on both sides of a letter. -/
theorem text_decodes_of_controls :
    let fields := [("b", "a\"\\\n"), ("a", "\x85é\x7f")]
    let line : LogLine := ⟨.warn, "T", fields⟩
    let text := "\x7b\"event\":\"T\",\"severity\":\"WARN\",\"a\":\"\\u0085é\\u007f\",\"b\":\"a\\\"\\\\\\n\"\x7d\n"
    (Entries.keys fields).Nodup ∧ fields.reverse.Perm fields ∧ line.text = text ∧
      (⟨.warn, "T", fields.reverse⟩ : LogLine).text = text ∧
      ∃ sorted, Entries.StablySorted fields sorted ∧
        Json.parse? text = some (.ofTexts (("event", "T") :: ("severity", "WARN") :: sorted)) := by
  intro fields line text
  have distinct : (Entries.keys fields).Nodup := by decide
  have perm : fields.reverse.Perm fields := List.reverse_perm fields
  have by_key : Entries.sortByKey fields = fields.reverse := (Entries.sortByKey_pair _ _).trans (if_neg (by decide))
  have written : line.text = text := by
    rw [LogLine.text, members, by_key]
    decide +kernel
  obtain ⟨-, ⟨sorted, stable, read⟩, permuted⟩ := text_decodes line
  exact ⟨distinct, perm, written, (permuted _ distinct perm).trans written, sorted, stable, written ▸ read⟩

end Lines
end LogLine
end DocQuery
