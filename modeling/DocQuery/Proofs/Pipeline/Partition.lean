import DocQuery.Proofs.Lists.Cells
import DocQuery.Proofs.Pipeline.Groups

/-! Groups as cells of a partition. A pass over rows that updates one entry at a time comes to the entries of
the cells: each is made by the first row of its cell and changed by the rows of the cell in order. -/
namespace DocQuery

section Entries

variable {ι α : Type} (key : ι → String) (fresh : ι → α) (change : ι → α → α)

/-- Takes an item into the entry with its key. -/
def touch (entries : List (String × α)) (item : ι) : List (String × α) :=
  updateEntry (key item) (fresh item) (change item) entries

theorem addNew_eq_updateEntry (entries : List (String × α)) (key : String) (value : α) :
    addNew entries key value = updateEntry key value id entries := by
  induction entries with
  | nil => rfl
  | cons e es ih =>
    rw [updateEntry, addNew, Entries.find?]
    by_cases here : e.1 = key
    · simp only [if_pos here, id]
    · simp only [if_neg here, ← ih, addNew]
      cases Entries.find? key es <;> rfl

/-- The first entry takes in the items with its key, the other entries the other items. -/
theorem foldl_touch_cons (items : List ι) (k : String) (v : α) (entries : List (String × α)) :
    items.foldl (touch key fresh change) ((k, v) :: entries) =
      (k, (items.filter fun x => k == key x).foldl (fun v x => change x v) v) ::
        (items.filter fun x => !(k == key x)).foldl (touch key fresh change) entries := by
  induction items generalizing v entries with
  | nil => rfl
  | cons x xs ih =>
    rw [List.foldl_cons, touch, updateEntry]
    by_cases here : k = key x
    · have found : (k == key x) = true := beq_iff_eq.mpr here
      rw [if_pos here, ih]
      simp only [List.filter_cons, found, Bool.not_true, if_true, Bool.false_eq_true, if_false, List.foldl_cons]
    · have other : (k == key x) = false := beq_eq_false_iff_ne.mpr here
      rw [if_neg here, ih]
      simp only [List.filter_cons, other, Bool.not_false, if_true, Bool.false_eq_true, if_false, List.foldl_cons, touch]

theorem foldl_touch (items : List ι) :
    items.foldl (touch key fresh change) [] = (cells (fun a b => key a == key b) items).map fun cell =>
      (key cell.first, cell.members.foldl (fun v x => change x v) (fresh cell.first)) := by
  fun_induction cells (fun a b => key a == key b) items with
  | case1 => rfl
  | case2 a rest ih =>
    rw [List.foldl_cons, touch, updateEntry, foldl_touch_cons, List.map_cons, ← ih]
    rfl

end Entries

section Members

/-- Whether a row belongs to a group: none of its keys fails. -/
def belongs (rules : RegexRules) (groups : List Assignment) (row : Row) : Bool :=
  groups.all fun g => !(evaluate rules row g.expr).isError

/-- What a row has for groups. -/
def rowKeys (rules : RegexRules) (groups : List Assignment) (row : Row) : List Value :=
  groups.map (groupKey rules row)

theorem any_isError_eq_not_belongs (rules : RegexRules) (groups : List Assignment) (row : Row) :
    (groups.any fun g => (evaluate rules row g.expr).isError) = !belongs rules groups row := by
  rw [belongs, List.not_all_eq_any_not]
  simp

theorem readGroupKeys_eq (rules : RegexRules) (row : Row) (groups : List Assignment) :
    (readGroupKeys rules row groups).value =
      if belongs rules groups row then some (rowKeys rules groups row) else none := by
  rw [readGroupKeys_value, any_isError_eq_not_belongs, rowKeys]
  cases belongs rules groups row <;> rfl

/-- Without group expressions every row belongs to the one group. -/
theorem filter_belongs_nil (rules : RegexRules) (rows : List Row) : rows.filter (belongs rules []) = rows :=
  List.filter_eq_self.mpr fun _ _ => rfl

/-- The cells of the rows that belong to groups, by the texts of their keys. -/
def groupCells (rules : RegexRules) (groups : List Assignment) (rows : List Row) : List (Cell Row) :=
  cells (fun a b => rowGroup rules groups a == rowGroup rules groups b) (rows.filter (belongs rules groups))

/-- The row that stands for a cell of rows: its first one, with the keys as its fields. -/
def distinctRow (rules : RegexRules) (groups : List Assignment) (cell : Cell Row) : Row :=
  cell.first.withFields (keyFields groups (rowKeys rules groups cell.first))

theorem distinctRows_eq (rules : RegexRules) (groups : List Assignment) (rows : List Row) :
    (distinctRows rules groups rows).value = (groupCells rules groups rows).map (distinctRow rules groups) := by
  have step (seen : List (String × Row)) (row : Row) :
      keepDistinct groups seen (row, (readGroupKeys rules row groups).value) =
        if belongs rules groups row then
          touch (rowGroup rules groups) (fun row => row.withFields (keyFields groups (rowKeys rules groups row)))
            (fun _ => id) seen row
        else seen := by
    rw [readGroupKeys_eq]
    cases belongs rules groups row with
    | false => rfl
    | true => exact addNew_eq_updateEntry seen _ _
  have kept (cell : Cell Row) (row : Row) : cell.members.foldl (fun v _ => id v) row = row := by
    induction cell.members with
    | nil => rfl
    | cons _ _ ih => exact ih
  simp only [distinctRows_value, step, ← List.foldl_filter, foldl_touch, List.map_map]
  refine List.map_congr_left fun cell _ => ?_
  exact kept cell _

end Members

section Totals

/-- A total over rows, which it takes in in order. -/
def totalOver (rules : RegexRules) (rows : List Row) (a : Accumulator) : Value :=
  (rows.foldl (fun t row => t.feed (argument rules row a)) (Tally.start a.kind)).result

/-- The row of a group: its keys and the totals of its rows. -/
def totalsRow (rules : RegexRules) (groups : List Assignment) (accumulators : List Accumulator) (keys : List Value)
    (rows : List Row) : Row :=
  .ofFields (writeFields (keyFields groups keys) (accumulators.map fun a => (a.path, totalOver rules rows a)))

/-- Keys and rows of each group. Without group expressions there is one group of all rows, even of none. -/
def groupParts (rules : RegexRules) (groups : List Assignment) (rows : List Row) : List (List Value × List Row) :=
  if groups.isEmpty then [([], rows)]
  else (groupCells rules groups rows).map fun cell => (rowKeys rules groups cell.first, cell.members)

/-- What a row that belongs to a group contributes to it. -/
def contribution (rules : RegexRules) (groups : List Assignment) (accumulators : List Accumulator) (row : Row) :
    Contribution :=
  ⟨rowKeys rules groups row, accumulators.map (argument rules row)⟩

theorem contributions_eq (rules : RegexRules) (groups : List Assignment) (accumulators : List Accumulator)
    (rows : List Row) : rows.filterMap (contribution? rules groups accumulators) =
      (rows.filter (belongs rules groups)).map (contribution rules groups accumulators) := by
  have single (row : Row) : contribution? rules groups accumulators row =
      if belongs rules groups row then some (contribution rules groups accumulators row) else none := by
    rw [contribution?, readGroupKeys_eq]
    cases belongs rules groups row <;> rfl
  induction rows with
  | nil => rfl
  | cons row rows ih =>
    rw [List.filterMap_cons, List.filter_cons, single, ih]
    cases belongs rules groups row <;> rfl

/-- The totals of a group do not interfere. -/
theorem foldl_feed (rules : RegexRules) (accumulators : List Accumulator) (keys : List Value) (rows : List Row)
    (tallies : Accumulator → Tally) :
    rows.foldl (fun b row => Bucket.feed (accumulators.map (argument rules row)) b) ⟨keys, accumulators.map tallies⟩ =
      ⟨keys, accumulators.map fun a => rows.foldl (fun t row => t.feed (argument rules row a)) (tallies a)⟩ := by
  induction rows generalizing tallies with
  | nil => rfl
  | cons row rows ih =>
    have fed : Bucket.feed (accumulators.map (argument rules row)) ⟨keys, accumulators.map tallies⟩ =
        ⟨keys, accumulators.map fun a => (tallies a).feed (argument rules row a)⟩ := by
      rw [Bucket.feed, List.zipWith_map, List.zipWith_self]
    rw [List.foldl_cons, fed, ih]
    rfl

theorem toRow_foldl_feed (rules : RegexRules) (groups : List Assignment) (accumulators : List Accumulator)
    (keys : List Value) (rows : List Row) :
    (rows.foldl (fun b row => Bucket.feed (accumulators.map (argument rules row)) b)
      (.empty accumulators keys)).toRow groups accumulators = totalsRow rules groups accumulators keys rows := by
  rw [Bucket.empty, foldl_feed, Bucket.toRow, totalsRow, List.map_map, List.zip_map']
  rfl

theorem aggregateRows_eq (rules : RegexRules) (groups : List Assignment) (accumulators : List Accumulator)
    (rows : List Row) : (aggregateRows rules groups accumulators rows).value =
      (groupParts rules groups rows).map fun (keys, members) => totalsRow rules groups accumulators keys members := by
  have step (buckets : List (String × Bucket)) (row : Row) :
      collect accumulators buckets (contribution rules groups accumulators row) =
        touch (rowGroup rules groups) (fun row => Bucket.empty accumulators (rowKeys rules groups row))
          (fun row => Bucket.feed (accumulators.map (argument rules row))) buckets row := rfl
  simp only [aggregateRows_value, contributions_eq, List.foldl_map, step]
  cases groups with
  | nil =>
    -- the one entry is there before any row, and every row goes into it
    have one (row : Row) : (groupId [] == rowGroup rules [] row) = true := beq_self_eq_true _
    simp only [initialBuckets, groupParts, List.isEmpty_nil, if_true, foldl_touch_cons, filter_belongs_nil, one,
      List.filter_true, Bool.not_true, List.filter_false, List.foldl_nil, List.map_cons, List.map_nil,
      toRow_foldl_feed]
  | cons g gs =>
    simp only [initialBuckets, groupParts, List.isEmpty_cons, Bool.false_eq_true, if_false, foldl_touch, List.map_map]
    refine List.map_congr_left fun cell _ => ?_
    exact toRow_foldl_feed rules (g :: gs) accumulators _ cell.members

theorem equivalence_of_group (rules : RegexRules) (groups : List Assignment) :
    Equivalence fun a b : Row => (rowGroup rules groups a == rowGroup rules groups b) = true where
  refl a := beq_self_eq_true _
  symm h := by
    rw [beq_iff_eq] at h ⊢
    exact h.symm
  trans h h' := by
    rw [beq_iff_eq] at h h' ⊢
    exact h.trans h'

end Totals
end DocQuery
