import Mathlib.Data.List.Forall2

/-! Where a part of a text ends, so that texts of one beginning are texts of one thing. A part ends
by itself, or at a character that it cannot hold, or at a comma or a closing bracket. -/
namespace DocQuery

/-- Texts that differ in what they start with, or in what follows, differ. -/
def ReadsAs (write : α → List Char) (same : α → α → Prop) (stops : List Char → Prop) (a b : α) : Prop :=
  ∀ rest rest', stops rest → stops rest' → write a ++ rest = write b ++ rest' →
    same a b ∧ rest = rest'

/-- The text is at its end or goes on with a character without the property. -/
def StopsAt (p : Char → Bool) (rest : List Char) : Prop := ∀ c ∈ rest.head?, p c = false

def isDelimiter (c : Char) : Bool := c == ',' || c == ')' || c == ']' || c == '\x7d'

/-- The text is at its end or goes on with a comma or a closing bracket. -/
def Closed (rest : List Char) : Prop := ∀ c ∈ rest.head?, isDelimiter c = true

theorem closed_cons {c : Char} (h : isDelimiter c = true) (rest : List Char) : Closed (c :: rest) := by
  rintro _ ⟨⟩
  exact h

/-- A run of characters with a property reaches to the first one without it. -/
theorem run_inj {p : Char → Bool} {cs ds rest rest' : List Char} (hc : ∀ c ∈ cs, p c = true)
    (hd : ∀ d ∈ ds, p d = true) (stop : StopsAt p rest) (stop' : StopsAt p rest')
    (h : cs ++ rest = ds ++ rest') : cs = ds ∧ rest = rest' := by
  have first {xs tail : List Char} (hx : ∀ x ∈ xs, p x = true) (ht : StopsAt p tail) :
      (xs ++ tail).takeWhile p = xs := by
    have none : tail.takeWhile p = [] := by
      cases tail with
      | nil => rfl
      | cons c tail => simp [ht c rfl]
    rw [List.takeWhile_append_of_pos hx, none, List.append_nil]
  have same : cs = ds := by rw [← first hc stop, h, first hd stop']
  subst same
  exact ⟨rfl, List.append_cancel_left h⟩

/-- Whether none of some characters occurs in a text. -/
def avoids (stops : List Char) (text : String) : Bool := text.toList.all fun c => !stops.contains c

theorem avoids_ofList {stops cs : List Char} (h : cs.all fun c => !stops.contains c) : avoids stops (.ofList cs) := by
  rw [avoids, String.toList_ofList]
  exact h

theorem avoids_inj {stops : List Char} {s t : String} {c d : Char} {rest rest' : List Char}
    (hs : avoids stops s) (ht : avoids stops t) (hc : c ∈ stops) (hd : d ∈ stops)
    (h : s.toList ++ c :: rest = t.toList ++ d :: rest') : s = t ∧ c :: rest = d :: rest' := by
  have stop {x : Char} (hx : x ∈ stops) (tail : List Char) : StopsAt (fun c => !stops.contains c) (x :: tail) := by
    rintro _ ⟨⟩
    simpa using hx
  obtain ⟨same, after⟩ := run_inj (List.all_eq_true.mp hs) (List.all_eq_true.mp ht) (stop hc rest)
    (stop hd rest') h
  exact ⟨String.toList_inj.mp same, after⟩

/-- What is read back from its text is told apart by it. -/
theorem parsed_inj {parse : String → α} {text : α → String} {stops : List Char} {a b : α} {c d : Char}
    {rest rest' : List Char} (ha : parse (text a) = a ∧ avoids stops (text a))
    (hb : parse (text b) = b ∧ avoids stops (text b)) (hc : c ∈ stops) (hd : d ∈ stops)
    (h : (text a).toList ++ c :: rest = (text b).toList ++ d :: rest') : a = b ∧ c :: rest = d :: rest' := by
  obtain ⟨same, after⟩ := avoids_inj ha.2 hb.2 hc hd h
  exact ⟨by rw [← ha.1, same, hb.1], after⟩

theorem intercalate_cons (separator : Char) (text : List Char) (texts : List (List Char)) :
    [separator].intercalate (text :: texts) = text ++ texts.flatMap (separator :: ·) := by
  induction texts generalizing text with
  | nil => simp
  | cons next texts ih =>
    have step : [separator].intercalate (text :: next :: texts) =
        text ++ separator :: [separator].intercalate (next :: texts) := by
      simp [List.intercalate]
    rw [step, ih]
    rfl

/-- Texts with commas between them. -/
def commas (texts : List (List Char)) : List Char := [','].intercalate texts

theorem toList_commas (texts : List String) :
    (",".intercalate texts).toList = commas (texts.map String.toList) := by
  rw [String.toList_intercalate]
  rfl

theorem commas_cons (text : List Char) (texts : List (List Char)) :
    commas (text :: texts) = text ++ texts.flatMap (',' :: ·) :=
  intercalate_cons ',' text texts

section Lists

variable {write : α → List Char} {same : α → α → Prop} {stops : List Char → Prop} {close : Char}
  {as bs : List α}

theorem readsAs_tail (comma : ∀ rest, stops (',' :: rest)) (closing : ∀ rest, stops (close :: rest))
    (other : close ≠ ',') (members : ∀ a ∈ as, ∀ b ∈ bs, ReadsAs write same stops a b)
    (rest rest' : List Char) (eq : (as.map write).flatMap (',' :: ·) ++ close :: rest =
      (bs.map write).flatMap (',' :: ·) ++ close :: rest') :
    List.Forall₂ same as bs ∧ rest = rest' := by
  have follows (items : List α) (rest : List Char) :
      stops ((items.map write).flatMap (',' :: ·) ++ close :: rest) := by
    cases items with
    | nil => exact closing rest
    | cons a as => exact comma _
  induction as generalizing bs with
  | nil =>
    cases bs with
    | nil => exact ⟨.nil, List.tail_eq_of_cons_eq eq⟩
    | cons b bs => exact absurd (List.head_eq_of_cons_eq eq) other
  | cons a as ih =>
    cases bs with
    | nil => exact absurd (List.head_eq_of_cons_eq eq).symm other
    | cons b bs =>
      simp only [List.map_cons, List.flatMap_cons, List.cons_append, List.append_assoc,
        List.cons.injEq, true_and] at eq
      obtain ⟨first, others⟩ := members a List.mem_cons_self b List.mem_cons_self _ _
        (follows as rest) (follows bs rest') eq
      obtain ⟨later, ends⟩ := ih
        (fun a ha b hb => members a (List.mem_cons_of_mem _ ha) b (List.mem_cons_of_mem _ hb)) others
      exact ⟨.cons first later, ends⟩

/-- Lists with commas are read item by item up to the bracket that closes them, where no item is
empty or starts like a bracket. -/
theorem readsAs_commas (comma : ∀ rest, stops (',' :: rest)) (closing : ∀ rest, stops (close :: rest))
    (other : close ≠ ',') (starts : ∀ a ∈ as ++ bs, ∃ c cs, write a = c :: cs ∧ c ≠ close)
    (members : ∀ a ∈ as, ∀ b ∈ bs, ReadsAs write same stops a b) (rest rest' : List Char)
    (eq : commas (as.map write) ++ close :: rest = commas (bs.map write) ++ close :: rest') :
    List.Forall₂ same as bs ∧ rest = rest' := by
  cases as with
  | nil =>
    cases bs with
    | nil => exact ⟨.nil, List.tail_eq_of_cons_eq eq⟩
    | cons b bs =>
      obtain ⟨c, cs, begins, ne⟩ := starts b List.mem_cons_self
      rw [List.map_cons, commas_cons, begins] at eq
      exact absurd (List.head_eq_of_cons_eq eq).symm ne
  | cons a as =>
    cases bs with
    | nil =>
      obtain ⟨c, cs, begins, ne⟩ := starts a List.mem_cons_self
      rw [List.map_cons, commas_cons, begins] at eq
      exact absurd (List.head_eq_of_cons_eq eq) ne
    | cons b bs =>
      refine readsAs_tail comma closing other members rest rest' ?_
      simpa only [List.map_cons, commas_cons, List.flatMap_cons, List.cons_append] using
        congrArg (',' :: ·) eq

end Lists
end DocQuery
