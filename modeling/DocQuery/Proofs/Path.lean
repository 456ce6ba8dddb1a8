import DocQuery.Path.Field
import DocQuery.Path.Resource
import DocQuery.Proofs.Text.Reading
import DocQuery.Proofs.Text.Split

/-! Paths that their texts determine, inside longer texts too: they are what is read from their texts, and
the character that comes after is none of theirs. -/
namespace DocQuery

namespace FieldPath

/-- The path is read back from its text, which goes on to the first of some characters. -/
def legible (stops : List Char) (path : FieldPath) : Bool :=
  decide (parse path.text = path) && avoids stops path.text

theorem readsAs {stops : List Char} {p q : FieldPath} (hp : p.legible stops) (hq : q.legible stops) {c d : Char}
    {rest rest' : List Char} (hc : c ∈ stops) (hd : d ∈ stops)
    (h : p.text.toList ++ c :: rest = q.text.toList ++ d :: rest') : p = q ∧ c :: rest = d :: rest' := by
  rw [legible, Bool.and_eq_true, decide_eq_true_eq] at hp hq
  exact parsed_inj hp hq hc hd h

end FieldPath

namespace ResourcePath

def legible (stops : List Char) (path : ResourcePath) : Bool :=
  decide (parse path.text = path) && avoids stops path.text

theorem readsAs {stops : List Char} {p q : ResourcePath} (hp : p.legible stops) (hq : q.legible stops) {c d : Char}
    {rest rest' : List Char} (hc : c ∈ stops) (hd : d ∈ stops)
    (h : p.text.toList ++ c :: rest = q.text.toList ++ d :: rest') : p = q ∧ c :: rest = d :: rest' := by
  rw [legible, Bool.and_eq_true, decide_eq_true_eq] at hp hq
  exact parsed_inj hp hq hc hd h

/-- No segment is empty or holds a slash. -/
def Segmented (path : ResourcePath) : Prop := ∀ s ∈ path.segments, s ≠ "" ∧ '/' ∉ s.toList

theorem segmented_parse (text : String) : (parse text).Segmented := by
  intro s hs
  obtain ⟨piece, hp, rfl⟩ := List.mem_map.mp hs
  obtain ⟨cut, some⟩ := List.mem_filter.mp hp
  refine ⟨?_, by simpa only [String.toList_ofList] using not_mem_of_mem_splitAt cut⟩
  rintro empty
  rw [String.ofList_eq_empty_iff.mp empty] at some
  contradiction

/-- The empty path is written as the empty text, in which there is one piece, an empty one. -/
theorem parse_text {path : ResourcePath} (h : path.Segmented) : parse path.text = path := by
  rcases path with ⟨segments⟩
  by_cases none : segments = []
  · subst none
    rfl
  have pieces : splitAt '/' (text ⟨segments⟩).toList = segments.map String.toList := by
    rw [text, String.toList_intercalate]
    refine splitAt_intercalate (by simpa using none) ?_
    simpa only [List.forall_mem_map] using fun s hs => (h s hs).2
  have kept : segments.filter ((fun piece => !piece.isEmpty) ∘ String.toList) = segments :=
    List.filter_eq_self.mpr fun s hs => by simpa using (h s hs).1
  rw [parse, pieces, List.filter_map, kept, List.map_map]
  simp

end ResourcePath

namespace DocumentKey

/-- The key is read from some text. -/
def Parsed (key : DocumentKey) : Prop := ∃ text, parse? text = some key

theorem parse?_text {key : DocumentKey} (h : key.path.Segmented) : parse? key.text = some key := by
  rw [parse?, text, ResourcePath.parse_text h, ofPath?, dif_pos key.ends_in_document]

theorem parsed_iff {key : DocumentKey} : key.Parsed ↔ key.path.Segmented := by
  constructor
  · rintro ⟨text, read⟩
    unfold parse? ofPath? at read
    split at read
    · cases read
      exact ResourcePath.segmented_parse text
    · contradiction
  · intro segmented
    exact ⟨key.text, parse?_text segmented⟩

instance (key : DocumentKey) : Decidable key.Parsed :=
  decidable_of_iff (∀ s ∈ key.path.segments, s ≠ "" ∧ '/' ∉ s.toList) parsed_iff.symm

theorem Parsed.text_inj {j k : DocumentKey} (hj : j.Parsed) (hk : k.Parsed) (h : j.text = k.text) : j = k := by
  have same : j.path = k.path := by
    rw [← ResourcePath.parse_text (parsed_iff.mp hj), ← text, h, text, ResourcePath.parse_text (parsed_iff.mp hk)]
  cases j
  cases k
  cases same
  rfl

def legible (stops : List Char) (key : DocumentKey) : Bool := key.path.legible stops

theorem readsAs {stops : List Char} {j k : DocumentKey} (hj : j.legible stops) (hk : k.legible stops) {c d : Char}
    {rest rest' : List Char} (hc : c ∈ stops) (hd : d ∈ stops)
    (h : j.text.toList ++ c :: rest = k.text.toList ++ d :: rest') : j = k ∧ c :: rest = d :: rest' := by
  obtain ⟨same, after⟩ := ResourcePath.readsAs hj hk hc hd h
  cases j
  cases k
  cases same
  exact ⟨rfl, after⟩

/-- A document has a name, so its text is not empty. -/
theorem text_starts {stops : List Char} {key : DocumentKey} (h : key.legible stops) :
    ∃ c cs, key.text.toList = c :: cs ∧ c ∉ stops := by
  simp only [legible, ResourcePath.legible, Bool.and_eq_true, decide_eq_true_eq] at h
  cases begins : key.text.toList with
  | nil =>
    have empty : key.path.text = "" := String.toList_inj.mp begins
    have none : key.path.length = 0 := by
      rw [← h.1, empty]
      rfl
    exact absurd none key.ends_in_document.2
  | cons c cs =>
    have avoided := List.all_eq_true.mp h.2 c (begins ▸ List.mem_cons_self)
    exact ⟨c, cs, rfl, by simpa using avoided⟩

end DocumentKey
end DocQuery
