import DocQuery.Proofs.Number.Canonical
import DocQuery.Proofs.Text.Base64
import DocQuery.Proofs.Text.Quoted
import DocQuery.Proofs.Text.Reading
import DocQuery.Proofs.Value.TotalOrder

/-! Canonical texts are the classes of the total order. The text of a value depends on its form only,
and from the text the form is read back up to ties of the order: the domain from the first characters,
then the data, part by part, each up to where it ends. -/
namespace DocQuery

mutual

/-- The references in a value, at any depth. -/
def Value.references : Value → List DocumentKey
  | .reference key => [key]
  | .array items => itemsReferences items
  | .map entries => entriesReferences entries
  | _ => []

def itemsReferences : List Value → List DocumentKey
  | [] => []
  | v :: vs => v.references ++ itemsReferences vs

def entriesReferences : List (String × Value) → List DocumentKey
  | [] => []
  | (_, v) :: rest => v.references ++ entriesReferences rest

end

mutual

def Form.references : Form → List DocumentKey
  | .reference key => [key]
  | .array items => formsReferences items
  | .map entries => pairsReferences entries
  | _ => []

def formsReferences : List Form → List DocumentKey
  | [] => []
  | f :: fs => f.references ++ formsReferences fs

def pairsReferences : List (String × Form) → List DocumentKey
  | [] => []
  | (_, f) :: rest => f.references ++ pairsReferences rest

end

def spellBoolean (b : Bool) : List Char :=
  if b then ['t', 'r', 'u', 'e'] else ['f', 'a', 'l', 's', 'e']

def spellTimestamp (t : Timestamp) : List Char :=
  ['t', 'i', 'm', 'e', '('] ++ ((toString t.seconds).toList ++ ',' :: ((toString t.nanos).toList ++ [')']))

def spellBytes (bs : List UInt8) : List Char := ['b', 'y', 't', 'e', 's', '('] ++ (Base64.digits bs ++ [')'])

def spellReference (key : DocumentKey) : List Char := ['r', 'e', 'f', '('] ++ (key.text.toList ++ [')'])

def spellGeo (point : GeoPoint) : List Char :=
  ['g', 'e', 'o', '('] ++
    (point.latitude.canonical.toList ++ ',' :: (point.longitude.canonical.toList ++ [')']))

mutual

/-- The canonical text of a value by its form. -/
def Form.spell : Form → List Char
  | .null => ['n', 'u', 'l', 'l']
  | .boolean b => spellBoolean b
  | .number n => n.canonical.toList
  | .timestamp t => spellTimestamp t
  | .string s => (Quoted.encode s).toList
  | .bytes bs => spellBytes bs
  | .reference key => spellReference key
  | .geo point => spellGeo point
  | .array items => '[' :: (commas (spellItems items) ++ [']'])
  | .map entries => '\x7b' :: (commas (spellEntries entries) ++ ['\x7d'])

def spellItems : List Form → List (List Char)
  | [] => []
  | f :: fs => f.spell :: spellItems fs

def spellEntries : List (String × Form) → List (List Char)
  | [] => []
  | (k, f) :: rest => ((Quoted.encode k).toList ++ ':' :: f.spell) :: spellEntries rest

end

def spellPair (e : String × Form) : List Char := (Quoted.encode e.1).toList ++ ':' :: e.2.spell

theorem spellItems_eq_map (items : List Form) : spellItems items = items.map Form.spell := by
  induction items with
  | nil => rfl
  | cons f fs ih => rw [spellItems, ih, List.map_cons]

theorem spellEntries_eq_map (entries : List (String × Form)) :
    spellEntries entries = entries.map spellPair := by
  induction entries with
  | nil => rfl
  | cons e es ih => rw [spellEntries, ih, List.map_cons, spellPair]

theorem canonicalItems_eq_map (items : List Value) : canonicalItems items = items.map Value.canonical := by
  induction items with
  | nil => rfl
  | cons v vs ih => rw [canonicalItems, ih, List.map_cons]

theorem canonicalValues_eq_map (entries : Fields) :
    canonicalValues entries = entries.map fun e => (e.1, e.2.canonical) := by
  induction entries with
  | nil => rfl
  | cons e es ih => rw [canonicalValues, ih, List.map_cons]

theorem canonical_array {items : List Value} (ih : ∀ v ∈ items, v.canonical.toList = v.form.spell) :
    (Value.array items).canonical.toList = (Value.array items).form.spell := by
  have members : items.map (String.toList ∘ Value.canonical) = items.map (Form.spell ∘ Value.form) :=
    List.map_congr_left ih
  simp only [Value.canonical, canonicalArray, canonicalItems_eq_map, Value.form, Form.spell,
    spellItems_eq_map, formList_eq_map, String.toList_append, toList_commas, List.map_map, members]
  rfl

theorem canonical_map {entries : Fields} (ih : ∀ e ∈ entries, e.2.canonical.toList = e.2.form.spell) :
    (Value.map entries).canonical.toList = (Value.map entries).form.spell := by
  have members : (Entries.sortByKey entries).map
      (String.toList ∘ canonicalEntry ∘ fun e => (e.1, e.2.canonical)) =
      (Entries.sortByKey entries).map (spellPair ∘ fun e => (e.1, e.2.form)) := by
    refine List.map_congr_left fun e he => ?_
    simp [canonicalEntry, spellPair, ih e ((Entries.sortByKey_perm entries).mem_iff.mp he)]
  simp only [Value.canonical, canonicalMap, canonicalValues_eq_map, Value.form, Form.spell,
    spellEntries_eq_map, formEntries_eq_map, Entries.sortByKey_map, String.toList_append,
    toList_commas, List.map_map, members]
  rfl

theorem canonical_vector (components : List Double) : (Value.vector components).canonical =
    (Value.map (Value.vectorEntries components)).canonical := by
  have items : components.map Double.canonical = (components.map Value.double).map Value.canonical := by
    rw [List.map_map]
    rfl
  simp only [Value.canonical, canonicalVector, Value.vectorEntries, canonicalValues,
    canonicalItems_eq_map, items]

theorem toList_canonical (v : Value) : v.canonical.toList = v.form.spell := by
  induction v with
  | null | integer | double | string => rfl
  | boolean b => cases b <;> rfl
  | timestamp t => simp [Value.canonical, Value.form, Form.spell, spellTimestamp]
  | bytes bs => simp [Value.canonical, Value.form, Form.spell, spellBytes, Base64.encode]
  | reference key => simp [Value.canonical, Value.form, Form.spell, spellReference]
  | geo point => simp [Value.canonical, Value.form, Form.spell, spellGeo]
  | array items ih => exact canonical_array ih
  | map entries ih => exact canonical_map ih
  | vector components =>
    rw [canonical_vector, form_vector]
    refine canonical_map fun e he => ?_
    simp only [Value.vectorEntries, List.mem_cons, List.not_mem_nil, or_false] at he
    rcases he with rfl | rfl
    · rfl
    · refine canonical_array fun v hv => ?_
      obtain ⟨d, _, rfl⟩ := List.mem_map.mp hv
      rfl

/-- The domain of a form by the first characters of its text. -/
def leadingDomain : List Char → Domain
  | 'n' :: _ => .null
  | 't' :: 'r' :: _ => .boolean
  | 'f' :: _ => .boolean
  | 't' :: 'i' :: _ => .timestamp
  | '"' :: _ => .string
  | 'b' :: _ => .bytes
  | 'r' :: _ => .reference
  | 'g' :: _ => .geo
  | '[' :: _ => .array
  | '{' :: _ => .map
  | _ => .number

theorem isNumeral_of_isDelimiter {c : Char} (h : isDelimiter c = true) : isNumeral c = false := by
  simp only [isDelimiter, Bool.or_eq_true, beq_iff_eq] at h
  rcases h with ((rfl | rfl) | rfl) | rfl <;> rfl

theorem isNumeral_of_startsNumber {c : Char} (h : startsNumber c = true) : isNumeral c = true := by
  simp only [startsNumber, Bool.or_eq_true, beq_iff_eq] at h
  rcases h with ((digit | rfl) | rfl) | rfl
  · exact isNumeral_of_isDigit digit
  all_goals rfl

theorem Closed.stopsAt {rest : List Char} (h : Closed rest) : StopsAt isNumeral rest :=
  fun c hc => isNumeral_of_isDelimiter (h c hc)

theorem leadingDomain_number {c : Char} (h : startsNumber c = true) (cs : List Char) :
    leadingDomain (c :: cs) = .number := by
  unfold leadingDomain
  split <;> first | rfl | (rename_i same; cases same; exact absurd h (by decide))

theorem Number.readsAs (m n : Number) :
    ReadsAs (fun n : Number => n.canonical.toList) (fun m n => m.order n = .eq) Closed m n := by
  intro rest rest' stop stop' h
  obtain ⟨same, after⟩ := run_inj m.canonical_numeral n.canonical_numeral stop.stopsAt stop'.stopsAt h
  exact ⟨order_eq_iff_canonical.mpr (String.toList_inj.mp same), after⟩

theorem digits_readsAs {m n : Nat} {c d : Char} {rest rest' : List Char} (hc : c.isDigit = false)
    (hd : d.isDigit = false) (h : (toString m).toList ++ c :: rest = (toString n).toList ++ d :: rest') :
    m = n ∧ c :: rest = d :: rest' := by
  obtain ⟨digits, after⟩ := run_inj (p := Char.isDigit) (fun _ => isDigit_of_mem_toString)
    (fun _ => isDigit_of_mem_toString) (by rintro _ ⟨⟩; exact hc) (by rintro _ ⟨⟩; exact hd) h
  have values := congrArg digitsValue digits
  rw [digitsValue_toString, digitsValue_toString] at values
  exact ⟨values, after⟩

theorem Timestamp.readsAs {t u : Timestamp} {rest rest' : List Char}
    (h : (toString t.seconds).toList ++ ',' :: ((toString t.nanos).toList ++ ')' :: rest) =
      (toString u.seconds).toList ++ ',' :: ((toString u.nanos).toList ++ ')' :: rest')) :
    t = u ∧ rest = rest' := by
  obtain ⟨seconds, later⟩ := run_inj toString_int_numeral toString_int_numeral
    (closed_cons rfl _).stopsAt (closed_cons rfl _).stopsAt h
  obtain ⟨nanos, after⟩ := digits_readsAs rfl rfl (List.tail_eq_of_cons_eq later)
  refine ⟨?_, List.tail_eq_of_cons_eq after⟩
  have first := toString_int_inj (String.toList_inj.mp seconds)
  cases t
  cases u
  simp_all

theorem bytes_readsAs {as bs : List UInt8} {rest rest' : List Char}
    (h : Base64.digits as ++ ')' :: rest = Base64.digits bs ++ ')' :: rest') :
    as = bs ∧ rest = rest' := by
  obtain ⟨digits, after⟩ := run_inj (Base64.digits_plain as) (Base64.digits_plain bs)
    (by rintro _ ⟨⟩; rfl) (by rintro _ ⟨⟩; rfl) h
  exact ⟨Base64.digits_inj digits, List.tail_eq_of_cons_eq after⟩

theorem GeoPoint.readsAs {x y : GeoPoint} {rest rest' : List Char}
    (h : x.latitude.canonical.toList ++ ',' :: (x.longitude.canonical.toList ++ ')' :: rest) =
      y.latitude.canonical.toList ++ ',' :: (y.longitude.canonical.toList ++ ')' :: rest')) :
    x.order y = .eq ∧ rest = rest' := by
  obtain ⟨latitude, later⟩ := Number.readsAs (.double x.latitude) (.double y.latitude) _ _
    (closed_cons rfl _) (closed_cons rfl _) h
  obtain ⟨longitude, after⟩ := Number.readsAs (.double x.longitude) (.double y.longitude) _ _
    (closed_cons rfl _) (closed_cons rfl _) (List.tail_eq_of_cons_eq later)
  exact ⟨Ordering.then_eq_eq.mpr ⟨latitude, longitude⟩, List.tail_eq_of_cons_eq after⟩

/-- The texts of the documents that satisfy a condition are told apart inside the texts of references. -/
def Readable (legible : DocumentKey → Prop) : Prop :=
  ∀ j k, legible j → legible k → ∀ rest rest',
    j.text.toList ++ ')' :: rest = k.text.toList ++ ')' :: rest' → j = k ∧ rest = rest'

/-- They are told apart where only some texts can come after a reference. -/
def ReadableBefore (stops : List Char → Prop) (legible : DocumentKey → Prop) : Prop :=
  ∀ j k, legible j → legible k → ∀ rest rest', stops rest → stops rest' →
    j.text.toList ++ ')' :: rest = k.text.toList ++ ')' :: rest' → j = k ∧ rest = rest'

/-- Texts that can come after a value: those that come after members of arrays and maps are among them, and
none goes on with a character of a number. -/
structure Follows (stops : List Char → Prop) : Prop where
  closed : ∀ rest, stops rest → Closed rest
  comma : ∀ rest, stops (',' :: rest)
  bracket : ∀ rest, stops (']' :: rest)
  brace : ∀ rest, stops ('\x7d' :: rest)

theorem follows_closed : Follows Closed :=
  ⟨fun _ => id, closed_cons rfl, closed_cons rfl, closed_cons rfl⟩

namespace Form

theorem leadingDomain_spell (f : Form) (rest : List Char) :
    leadingDomain (f.spell ++ rest) = f.domain := by
  cases f with
  | number n =>
    obtain ⟨c, cs, same, starts⟩ := n.canonical_starts
    rw [spell, same]
    exact leadingDomain_number starts _
  | boolean b => cases b <;> rfl
  | string s => simp [spell, Quoted.encode, leadingDomain, domain]
  | _ => rfl

theorem spell_starts (f : Form) : ∃ c cs, f.spell = c :: cs ∧ isDelimiter c = false := by
  cases f with
  | number n =>
    obtain ⟨c, cs, same, starts⟩ := n.canonical_starts
    refine ⟨c, cs, same, Bool.eq_false_iff.mpr fun delimiter => ?_⟩
    exact absurd (isNumeral_of_startsNumber starts) (by simp [isNumeral_of_isDelimiter delimiter])
  | boolean b => cases b <;> exact ⟨_, _, rfl, rfl⟩
  | string s => exact ⟨'"', _, by simp [spell, Quoted.encode]; rfl, rfl⟩
  | _ => exact ⟨_, _, rfl, rfl⟩

theorem eq_wrap_of_spell {f g : Form} {rest rest' : List Char}
    (h : f.spell ++ rest = g.spell ++ rest') : ∃ x : f.domain.Data, g = f.domain.wrap x := by
  refine eq_wrap_of_domain ?_
  rw [← leadingDomain_spell g rest', ← h, leadingDomain_spell]

/-- Forms whose references can be told apart are told apart by their texts up to ties. -/
def ReadsTies (stops : List Char → Prop) (legible : DocumentKey → Prop) (f : Form) : Prop :=
  ∀ g : Form, (∀ key ∈ f.references, legible key) → (∀ key ∈ g.references, legible key) →
    ReadsAs spell (fun f g => f.order g = .eq) stops f g

theorem mem_references_array {key : DocumentKey} {items : List Form} :
    key ∈ (array items).references ↔ ∃ f ∈ items, key ∈ f.references := by
  rw [references]
  induction items with
  | nil => simp [formsReferences]
  | cons f fs ih => simp [formsReferences, ih]

theorem mem_references_map {key : DocumentKey} {entries : List (String × Form)} :
    key ∈ (map entries).references ↔ ∃ e ∈ entries, key ∈ e.2.references := by
  rw [references]
  induction entries with
  | nil => simp [pairsReferences]
  | cons e es ih => simp [pairsReferences, ih]

section Reading

variable {stops : List Char → Prop} {legible : DocumentKey → Prop}

theorem readsTies_array (follows : Follows stops) {items : List Form} (ih : ∀ f ∈ items, ReadsTies stops legible f) :
    ReadsTies stops legible (array items) := by
  intro g hf hg rest rest' stop stop' h
  obtain ⟨others, rfl⟩ : ∃ others, g = array others := eq_wrap_of_spell h
  simp only [spell, spellItems_eq_map, List.cons_append, List.append_assoc, List.cons.injEq,
    List.nil_append, true_and] at h
  have starts (f : Form) (_ : f ∈ items ++ others) : ∃ c cs, f.spell = c :: cs ∧ c ≠ ']' := by
    obtain ⟨c, cs, same, plain⟩ := f.spell_starts
    exact ⟨c, cs, same, by rintro rfl; contradiction⟩
  have members : ∀ f ∈ items, ∀ g ∈ others, ReadsAs spell (fun f g => f.order g = .eq) stops f g :=
    fun f mf g mg => ih f mf g (fun key hk => hf key (mem_references_array.mpr ⟨f, mf, hk⟩))
      fun key hk => hg key (mem_references_array.mpr ⟨g, mg, hk⟩)
  obtain ⟨ties, after⟩ := readsAs_commas follows.comma follows.bracket (by decide) starts members rest rest' h
  exact ⟨orderItems_eq_iff.mpr ties, after⟩

theorem readsTies_map (follows : Follows stops) {entries : List (String × Form)}
    (ih : ∀ e ∈ entries, ReadsTies stops legible e.2) : ReadsTies stops legible (map entries) := by
  intro g hf hg rest rest' stop stop' h
  obtain ⟨others, rfl⟩ : ∃ others, g = map others := eq_wrap_of_spell h
  simp only [spell, spellEntries_eq_map, List.cons_append, List.append_assoc, List.cons.injEq,
    List.nil_append, true_and] at h
  have starts (e : String × Form) (_ : e ∈ entries ++ others) : ∃ c cs, spellPair e = c :: cs ∧ c ≠ '\x7d' :=
    ⟨'"', _, by simp [spellPair, Quoted.encode]; rfl, by decide⟩
  have members : ∀ e ∈ entries, ∀ e' ∈ others,
      ReadsAs spellPair (fun e e' => orderPair e e' = .eq) stops e e' := by
    intro e me e' me' tail tail' stop stop' eq
    simp only [spellPair, List.append_assoc, List.cons_append] at eq
    obtain ⟨key, later⟩ := Quoted.encode_inj eq
    obtain ⟨value, after⟩ := ih e me e'.2 (fun key hk => hf key (mem_references_map.mpr ⟨e, me, hk⟩))
      (fun key hk => hg key (mem_references_map.mpr ⟨e', me', hk⟩)) _ _ stop stop'
      (List.tail_eq_of_cons_eq later)
    have same : compare e.1 e'.1 = .eq := key ▸ Std.ReflCmp.compare_self
    exact ⟨Ordering.then_eq_eq.mpr ⟨same, value⟩, after⟩
  obtain ⟨ties, after⟩ := readsAs_commas follows.comma follows.brace (by decide) starts members rest rest' h
  exact ⟨orderEntries_eq_iff.mpr ties, after⟩

theorem readsTies_before (follows : Follows stops) (readable : ReadableBefore stops legible) (f : Form) :
    ReadsTies stops legible f := by
  induction f with
  | array items ih => exact readsTies_array follows ih
  | map entries ih => exact readsTies_map follows ih
  | null =>
    intro g _ _ rest rest' _ _ h
    obtain ⟨_, rfl⟩ := eq_wrap_of_spell h
    exact ⟨rfl, List.append_cancel_left h⟩
  | boolean b =>
    intro g _ _ rest rest' _ _ h
    obtain ⟨c, rfl⟩ : ∃ c, g = boolean c := eq_wrap_of_spell h
    cases b <;> cases c
    · exact ⟨rfl, List.append_cancel_left h⟩
    · exact absurd (List.head_eq_of_cons_eq h) (by decide)
    · exact absurd (List.head_eq_of_cons_eq h) (by decide)
    · exact ⟨rfl, List.append_cancel_left h⟩
  | number n =>
    intro g _ _ rest rest' stop stop' h
    obtain ⟨m, rfl⟩ : ∃ m, g = number m := eq_wrap_of_spell h
    exact n.readsAs m rest rest' (follows.closed rest stop) (follows.closed rest' stop') h
  | timestamp t =>
    intro g _ _ rest rest' _ _ h
    obtain ⟨u, rfl⟩ : ∃ u, g = timestamp u := eq_wrap_of_spell h
    simp only [spell, spellTimestamp, List.append_assoc, List.cons_append, List.nil_append,
      List.cons.injEq, true_and] at h
    obtain ⟨rfl, after⟩ := Timestamp.readsAs h
    exact ⟨Std.ReflCmp.compare_self, after⟩
  | string s =>
    intro g _ _ rest rest' _ _ h
    obtain ⟨t, rfl⟩ : ∃ t, g = string t := eq_wrap_of_spell h
    obtain ⟨rfl, after⟩ := Quoted.encode_inj h
    exact ⟨Std.ReflCmp.compare_self, after⟩
  | bytes as =>
    intro g _ _ rest rest' _ _ h
    obtain ⟨bs, rfl⟩ : ∃ bs, g = bytes bs := eq_wrap_of_spell h
    simp only [spell, spellBytes, List.append_assoc, List.cons_append, List.nil_append,
      List.cons.injEq, true_and] at h
    obtain ⟨rfl, after⟩ := bytes_readsAs h
    exact ⟨Std.ReflCmp.compare_self, after⟩
  | reference j =>
    intro g hf hg rest rest' stop stop' h
    obtain ⟨k, rfl⟩ : ∃ k, g = reference k := eq_wrap_of_spell h
    simp only [spell, spellReference, List.append_assoc, List.cons_append, List.nil_append,
      List.cons.injEq, true_and] at h
    obtain ⟨rfl, after⟩ := readable j k (hf j (by simp [references])) (hg k (by simp [references]))
      rest rest' stop stop' h
    exact ⟨Std.ReflCmp.compare_self, after⟩
  | geo point =>
    intro g _ _ rest rest' _ _ h
    obtain ⟨point', rfl⟩ : ∃ point', g = geo point' := eq_wrap_of_spell h
    simp only [spell, spellGeo, List.append_assoc, List.cons_append, List.nil_append,
      List.cons.injEq, true_and] at h
    exact GeoPoint.readsAs h

theorem readsTies (readable : Readable legible) (f : Form) : ReadsTies Closed legible f :=
  readsTies_before follows_closed (fun j k hj hk rest rest' _ _ => readable j k hj hk rest rest') f

end Reading

theorem spell_pair_congr {e e' : String × Form} (h : orderPair e e' = .eq)
    (ih : e.2.order e'.2 = .eq → e.2.spell = e'.2.spell) : spellPair e = spellPair e' := by
  obtain ⟨key, value⟩ := Ordering.then_eq_eq.mp h
  rw [spellPair, spellPair, Std.LawfulEqCmp.eq_of_compare key, ih value]

theorem spell_congr (f : Form) : ∀ g : Form, f.order g = .eq → f.spell = g.spell := by
  induction f with
  | number m =>
    intro g h
    cases tie_of_order h with
    | same => rfl
    | number tie => exact congrArg String.toList (Number.order_eq_iff_canonical.mp tie)
  | geo a =>
    intro g h
    cases tie_of_order h with
    | same => rfl
    | geo latitude longitude =>
      have first := Number.order_eq_iff_canonical (m := .double _) (n := .double _).mp latitude
      have second := Number.order_eq_iff_canonical (m := .double _) (n := .double _).mp longitude
      simp only [Number.canonical] at first second
      rw [spell, spell, spellGeo, spellGeo, first, second]
  | array items ih =>
    intro g h
    cases tie_of_order h with
    | same => rfl
    | array ties =>
      rw [spell, spell, spellItems_eq_map, spellItems_eq_map, map_eq_of_forall₂ ties ih]
  | map entries ih =>
    intro g h
    cases tie_of_order h with
    | same => rfl
    | map ties =>
      rw [spell, spell, spellEntries_eq_map, spellEntries_eq_map,
        map_eq_of_forall₂ ties fun e he e' tie => spell_pair_congr tie (ih e he e'.2)]
  | _ =>
    intro g h
    cases tie_of_order h
    rfl

end Form

theorem mem_references_array {key : DocumentKey} {items : List Value} :
    key ∈ (Value.array items).references ↔ ∃ v ∈ items, key ∈ v.references := by
  rw [Value.references]
  induction items with
  | nil => simp [itemsReferences]
  | cons v vs ih => simp [itemsReferences, ih]

theorem mem_references_map {key : DocumentKey} {entries : Fields} :
    key ∈ (Value.map entries).references ↔ ∃ e ∈ entries, key ∈ e.2.references := by
  rw [Value.references]
  induction entries with
  | nil => simp [entriesReferences]
  | cons e es ih => simp [entriesReferences, ih]

theorem formReferences_subset (v : Value) : ∀ key ∈ v.form.references, key ∈ v.references := by
  induction v with
  | array items ih =>
    intro key hk
    simp only [Value.form, Form.mem_references_array, formList_eq_map, List.mem_map] at hk
    obtain ⟨_, ⟨v, hv, rfl⟩, hk⟩ := hk
    exact mem_references_array.mpr ⟨v, hv, ih v hv key hk⟩
  | map entries ih =>
    intro key hk
    simp only [Value.form, Form.mem_references_map, (Entries.sortByKey_perm _).mem_iff,
      formEntries_eq_map, List.mem_map] at hk
    obtain ⟨_, ⟨e, he, rfl⟩, hk⟩ := hk
    exact mem_references_map.mpr ⟨e, he, ih e he key hk⟩
  | vector components =>
    intro key hk
    simp only [Value.form, Form.ofVector, Form.mem_references_map, List.mem_cons,
      List.not_mem_nil, or_false] at hk
    obtain ⟨_, rfl | rfl, hk⟩ := hk
    · contradiction
    · simp only [Form.mem_references_array, List.mem_map] at hk
      obtain ⟨_, ⟨d, _, rfl⟩, hk⟩ := hk
      contradiction
  | reference key => exact fun _ hk => hk
  | _ => exact fun _ hk => hk

namespace Value

theorem canonical_congr {a b : Value} (tie : a.order b = .eq) : a.canonical = b.canonical := by
  rw [← String.toList_inj, toList_canonical, toList_canonical]
  exact Form.spell_congr a.form b.form tie

/-- Values with one canonical text are ties of the total order, and conversely where no reference, whose
text is not quoted, is involved. -/
theorem canonical_classes (a b : Value) :
    (a.order b = .eq → a.canonical = b.canonical) ∧
      (a.references = [] → b.references = [] → a.canonical = b.canonical → a.order b = .eq) := by
  constructor
  · exact canonical_congr
  · intro ha hb h
    have texts : a.form.spell = b.form.spell := by
      rw [← toList_canonical, ← toList_canonical, h]
    have none {v : Value} (hv : v.references = []) : ∀ key ∈ v.form.references, False := by
      intro key hk
      have member := formReferences_subset v key hk
      rw [hv] at member
      contradiction
    have ends : Closed [] := by simp [Closed]
    have readable : Readable fun _ => False := fun _ _ h => h.elim
    exact (Form.readsTies readable a.form b.form (none ha) (none hb) [] [] ends ends (by simp [texts])).1

/-- An integer and a double, the zeros and the NaNs, inside an array and a map. -/
theorem canonical_classes_of_spellings :
    let a := map [("k", array [integer 1, double .zero, double .nan, string "1"])]
    let b := map [("k", array [double .one, double .negativeZero, double .nan, string "1"])]
    a.references = [] ∧ b.references = [] ∧ a.canonical = b.canonical ∧ a.order b = .eq := by
  intro a b
  have ties : a.order b = .eq := by decide +kernel
  have texts : a.canonical = b.canonical := (canonical_classes a b).1 ties
  exact ⟨rfl, rfl, texts, (canonical_classes a b).2 rfl rfl texts⟩

end Value
end DocQuery
