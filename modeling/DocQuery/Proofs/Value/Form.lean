import DocQuery.Proofs.Entries
import DocQuery.Value.Form

/-! Induction over values and their forms, with a hypothesis for every member of an array and every
value of a map, and the forms of each domain as data of one type. -/
namespace DocQuery

@[elab_as_elim, induction_eliminator]
theorem Value.members_induction {motive : Value → Prop} (null : motive .null)
    (boolean : ∀ b, motive (.boolean b)) (integer : ∀ i, motive (.integer i))
    (double : ∀ d, motive (.double d)) (timestamp : ∀ t, motive (.timestamp t))
    (string : ∀ s, motive (.string s)) (bytes : ∀ bs, motive (.bytes bs))
    (reference : ∀ key, motive (.reference key)) (geo : ∀ point, motive (.geo point))
    (array : ∀ items, (∀ v ∈ items, motive v) → motive (.array items))
    (map : ∀ entries, (∀ e ∈ entries, motive e.2) → motive (.map entries))
    (vector : ∀ components, motive (.vector components)) (v : Value) : motive v := by
  refine @Value.rec motive (fun items => ∀ v ∈ items, motive v)
    (fun entries => ∀ e ∈ entries, motive e.2) (fun e => motive e.2) null boolean integer double timestamp
    string bytes reference geo array map vector ?_ ?_ ?_ ?_ ?_ v
  · simp
  · intro v vs hv hvs
    simpa using ⟨hv, hvs⟩
  · simp
  · intro e es he hes
    simpa using ⟨he, fun k v h => hes (k, v) h⟩
  · intro _ _ h
    exact h

@[elab_as_elim, induction_eliminator]
theorem Form.members_induction {motive : Form → Prop} (null : motive .null)
    (boolean : ∀ b, motive (.boolean b)) (number : ∀ n, motive (.number n))
    (timestamp : ∀ t, motive (.timestamp t)) (string : ∀ s, motive (.string s))
    (bytes : ∀ bs, motive (.bytes bs)) (reference : ∀ key, motive (.reference key))
    (geo : ∀ point, motive (.geo point))
    (array : ∀ items, (∀ f ∈ items, motive f) → motive (.array items))
    (map : ∀ entries, (∀ e ∈ entries, motive e.2) → motive (.map entries)) (f : Form) :
    motive f := by
  refine @Form.rec motive (fun items => ∀ f ∈ items, motive f)
    (fun entries => ∀ e ∈ entries, motive e.2) (fun e => motive e.2) null boolean number timestamp
    string bytes reference geo array map ?_ ?_ ?_ ?_ ?_ f
  · simp
  · intro f fs hf hfs
    simpa using ⟨hf, hfs⟩
  · simp
  · intro e es he hes
    simpa using ⟨he, fun k f h => hes (k, f) h⟩
  · intro _ _ h
    exact h

/-- What a form of the domain holds. -/
def Domain.Data : Domain → Type
  | .null => Unit
  | .boolean => Bool
  | .number => Number
  | .timestamp => Timestamp
  | .string => String
  | .bytes => List UInt8
  | .reference => DocumentKey
  | .geo => GeoPoint
  | .array => List Form
  | .map => List (String × Form)

def Domain.wrap : (d : Domain) → d.Data → Form
  | .null, _ => .null
  | .boolean, b => .boolean b
  | .number, n => .number n
  | .timestamp, t => .timestamp t
  | .string, s => .string s
  | .bytes, bs => .bytes bs
  | .reference, key => .reference key
  | .geo, point => .geo point
  | .array, items => .array items
  | .map, entries => .map entries

@[simp] theorem Domain.domain_wrap (d : Domain) (x : d.Data) : (d.wrap x).domain = d := by
  cases d <;> rfl

theorem Form.eq_wrap (f : Form) : ∃ x : f.domain.Data, f = f.domain.wrap x := by
  cases f with
  | null => exact ⟨(), rfl⟩
  | _ x => exact ⟨x, rfl⟩

theorem Form.eq_wrap_of_domain {f : Form} {d : Domain} (h : f.domain = d) :
    ∃ x : d.Data, f = d.wrap x := h ▸ f.eq_wrap

theorem formList_eq_map (items : List Value) : formList items = items.map Value.form := by
  induction items with
  | nil => rfl
  | cons v vs ih => simp only [formList, List.map_cons, ih]

theorem formEntries_eq_map (entries : Fields) :
    formEntries entries = entries.map fun e => (e.1, e.2.form) := by
  induction entries with
  | nil => rfl
  | cons e es ih => simp only [formEntries, List.map_cons, ih]

/-- A vector has the form of the map that stands for it. -/
theorem form_vector (components : List Double) :
    (Value.vector components).form = (Value.map (Value.vectorEntries components)).form := by
  have sorted : Value.vectorTypeKey ≤ Value.vectorItemsKey := by decide
  simp [Value.form, Value.vectorEntries, formEntries, Entries.sortByKey_pair, sorted, Form.ofVector,
    formList_eq_map, Form.ofDouble]

end DocQuery
