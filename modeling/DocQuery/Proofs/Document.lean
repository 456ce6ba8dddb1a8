import DocQuery.Pipeline.Project
import DocQuery.Proofs.Value.Agreement

/-! Reading and writing fields at the end of paths, in maps that agree, and writes whose order makes no
difference because no path leads through another. -/
namespace DocQuery

/-- Fields that agree as the entries of one map. -/
abbrev FieldsAgree (legible : DocumentKey → Prop) (exact : Bool) : Fields → Fields → Prop :=
  Entries.Agree (Value.Agrees legible exact)

variable {legible : DocumentKey → Prop} {exact : Bool} {as bs fields : Fields} {v v' w : Value}

theorem getField_rel (h : FieldsAgree legible exact as bs) (path : List String) :
    Option.Rel (Value.Agrees legible exact) (getField as path) (getField bs path) := by
  induction path generalizing as bs with
  | nil => exact .none
  | cons key rest ih =>
    have found := h.related key
    cases rest with
    | nil => exact found
    | cons =>
      unfold getField
      generalize Entries.find? key as = x, Entries.find? key bs = y at found
      cases found with
      | none => exact .none
      | some hv =>
        cases hv with
        | map left right related => exact ih ⟨left, right, related⟩
        | _ => exact .none

theorem mapBelow_agree (h : FieldsAgree legible exact as bs) (key : String) :
    FieldsAgree legible exact (mapBelow as key) (mapBelow bs key) := by
  have found := h.related key
  unfold mapBelow
  generalize Entries.find? key as = x, Entries.find? key bs = y at found
  cases found with
  | none => exact .nil
  | some hv =>
    cases hv with
    | map left right related => exact ⟨left, right, related⟩
    | _ => exact .nil

/-- What a write below a key puts under it. -/
def written (below : Fields) (rest : List String) (v : Value) : Value :=
  match rest with
  | [] => v
  | rest => .map (setField below rest v)

theorem setField_cons (fields : Fields) (key : String) (rest : List String) (v : Value) :
    setField fields (key :: rest) v = Entries.insert key (written (mapBelow fields key) rest v) fields := by
  cases rest <;> rfl

theorem setField_agree (h : FieldsAgree legible exact as bs) (hv : v.Agrees legible exact v')
    (path : List String) : FieldsAgree legible exact (setField as path v) (setField bs path v') := by
  induction path generalizing as bs with
  | nil => exact h
  | cons key rest ih =>
    rw [setField_cons, setField_cons]
    refine h.insert ?_
    cases rest with
    | nil => exact hv
    | cons => exact Value.Agrees.map_iff.mpr ⟨_, rfl, ih (mapBelow_agree h key)⟩

theorem mapBelow_insert_ne (fields : Fields) (v : Value) (h : j ≠ k) :
    mapBelow (Entries.insert j v fields) k = mapBelow fields k := by
  rw [mapBelow, mapBelow, Entries.find?_insert, if_neg h]

theorem mapBelow_insert_self (fields below : Fields) (key : String) :
    mapBelow (Entries.insert key (.map below) fields) key = below := by
  rw [mapBelow, Entries.find?_insert, if_pos rfl]

/-- Neither path leads to or through the other. -/
def FieldPath.Apart (p q : FieldPath) : Prop :=
  ¬ p.segments <+: q.segments ∧ ¬ q.segments <+: p.segments

theorem FieldPath.Apart.symm {p q : FieldPath} (h : p.Apart q) : q.Apart p := ⟨h.2, h.1⟩

theorem written_agree (h : FieldsAgree legible exact as bs) (hv : v.Agrees legible exact v')
    (rest : List String) : (written as rest v).Agrees legible exact (written bs rest v') := by
  cases rest with
  | nil => exact hv
  | cons => exact Value.Agrees.map_iff.mpr ⟨_, rfl, setField_agree h hv _⟩

/-- Writes at paths apart from each other come out in either order, up to the order of entries. -/
theorem setField_comm (h : FieldsAgree legible exact fields fields) (hv : v.Agrees legible exact v)
    (hw : w.Agrees legible exact w) {p q : List String} (hp : ¬ p <+: q) (hq : ¬ q <+: p) :
    FieldsAgree legible exact (setField (setField fields p v) q w)
      (setField (setField fields q w) p v) := by
  induction p generalizing fields q with
  | nil => exact absurd List.nil_prefix hp
  | cons j ps ih =>
    cases q with
    | nil => exact absurd List.nil_prefix hq
    | cons k qs =>
      simp only [setField_cons]
      by_cases same : j = k
      · subst same
        rw [List.cons_prefix_cons, not_and] at hp hq
        cases ps with
        | nil => exact absurd List.nil_prefix (hp rfl)
        | cons p ps =>
          cases qs with
          | nil => exact absurd List.nil_prefix (hq rfl)
          | cons q qs =>
            refine h.insert_twice ?_
            simp only [written, mapBelow_insert_self]
            exact Value.Agrees.map_iff.mpr ⟨_, rfl, ih (mapBelow_agree h j) (hp rfl) (hq rfl)⟩
      · rw [mapBelow_insert_ne _ _ same, mapBelow_insert_ne _ _ (Ne.symm same)]
        exact h.insert_comm (written_agree (mapBelow_agree h j) hv ps)
          (written_agree (mapBelow_agree h k) hw qs) same

/-- Writes to the same paths of values that agree. -/
def WritesAgree (legible : DocumentKey → Prop) (exact : Bool) :
    List (FieldPath × Value) → List (FieldPath × Value) → Prop :=
  List.Forall₂ fun a b => a.1 = b.1 ∧ a.2.Agrees legible exact b.2

theorem writeFields_agree {writes writes' : List (FieldPath × Value)}
    (h : FieldsAgree legible exact as bs) (agree : WritesAgree legible exact writes writes') :
    FieldsAgree legible exact (writeFields as writes) (writeFields bs writes') := by
  induction agree generalizing as bs with
  | nil => exact h
  | @cons a b _ _ first _ ih =>
    have step : FieldsAgree legible exact (setField as a.1.segments a.2) (setField bs b.1.segments b.2) :=
      first.1 ▸ setField_agree h first.2 a.1.segments
    exact ih step

theorem WritesAgree.right {writes writes' : List (FieldPath × Value)}
    (h : WritesAgree legible exact writes writes') : WritesAgree legible exact writes' writes' := by
  refine List.forall₂_same.mpr fun b hb => ⟨rfl, ?_⟩
  have turned : List.Forall₂ (fun b a : FieldPath × Value => a.1 = b.1 ∧ a.2.Agrees legible exact b.2)
      writes' writes := h.flip
  obtain ⟨a, _, _, agree⟩ := exists_of_forall₂ turned hb
  exact agree.symm.trans agree

theorem FieldsAgree.refl (distinct : (Value.map fields).distinctKeys)
    (clear : ∀ key ∈ (Value.map fields).references, legible key) : FieldsAgree legible exact fields fields := by
  have whole : (Value.map fields).Agrees legible exact (.map fields) := .refl distinct clear
  obtain ⟨_, same, agree⟩ := Value.Agrees.map_iff.mp whole
  cases same
  exact agree

theorem FieldsAgree.right (h : FieldsAgree legible exact as bs) : FieldsAgree legible exact bs bs :=
  h.swap.trans_mem h fun _ _ _ _ agree agree' => agree.symm.trans agree'

theorem FieldsAgree.trans {cs : Fields} (h : FieldsAgree legible exact as bs)
    (h' : FieldsAgree legible exact bs cs) : FieldsAgree legible exact as cs :=
  h.trans_mem h' fun _ _ _ _ => Value.Agrees.trans

theorem writeFields_perm (h : FieldsAgree legible exact fields fields)
    {writes writes' : List (FieldPath × Value)} (perm : writes.Perm writes')
    (agree : WritesAgree legible exact writes writes)
    (apart : writes.Pairwise fun a b => a.1.Apart b.1) :
    FieldsAgree legible exact (writeFields fields writes) (writeFields fields writes') := by
  rw [WritesAgree, List.forall₂_same] at agree
  induction perm generalizing fields with
  | nil => exact h
  | @cons a as bs _ ih =>
    have first := agree a List.mem_cons_self
    exact ih (setField_agree h first.2 _) (fun x hx => agree x (List.mem_cons_of_mem _ hx))
      (List.pairwise_cons.mp apart).2
  | swap a b rest =>
    have ha := agree a (List.mem_cons_of_mem _ List.mem_cons_self)
    have hb := agree b List.mem_cons_self
    have two := (List.pairwise_cons.mp apart).1 a List.mem_cons_self
    have others : WritesAgree legible exact rest rest :=
      List.forall₂_same.mpr fun x hx => agree x (List.mem_cons_of_mem _ (List.mem_cons_of_mem _ hx))
    have whole := writeFields_agree (setField_comm h hb.2 ha.2 two.1 two.2) others
    exact whole
  | trans first _ ih ih' =>
    have apart' := (first.pairwise_iff fun h => FieldPath.Apart.symm h).mp apart
    exact (ih h agree apart).trans (ih' h (fun x hx => agree x (first.mem_iff.mpr hx)) apart')

end DocQuery
