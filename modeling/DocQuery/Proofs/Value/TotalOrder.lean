import DocQuery.Eval.Arithmetic
import DocQuery.Proofs.Comparison
import DocQuery.Proofs.Number.Comparison
import DocQuery.Proofs.Value.Form

/-! The total order of values is a total preorder. Both laws go by induction over the forms of values;
what orders the data within a domain decides them once differing domains are out of the way. -/
namespace DocQuery

theorem transCmp_on (cmp : α → α → Ordering) [Std.TransCmp cmp] (f : β → α) :
    Std.TransCmp fun a b => cmp (f a) (f b) where
  eq_swap := Std.OrientedCmp.eq_swap
  isLE_trans := Std.TransCmp.isLE_trans

instance : Std.TransCmp Domain.order := transCmp_on compare Domain.ctorIdx

instance : Std.LawfulEqCmp Domain.order where
  eq_of_compare {a b} h := by
    cases a <;> cases b <;> first | rfl | contradiction

instance : Std.TransCmp Timestamp.order :=
  inferInstanceAs (Std.TransCmp
    (compareLex (compareOn Timestamp.seconds) (compareOn Timestamp.nanos)))

instance : Std.LawfulEqCmp Timestamp.order where
  eq_of_compare {t u} h := by
    obtain ⟨seconds, nanos⟩ := Ordering.then_eq_eq.mp h
    cases t
    cases u
    simp_all

instance : Std.TransCmp Double.order := transCmp_on Number.order Number.double

instance : Std.TransCmp GeoPoint.order :=
  have := transCmp_on Double.order GeoPoint.latitude
  have := transCmp_on Double.order GeoPoint.longitude
  inferInstanceAs (Std.TransCmp (compareLex _ _))

instance : Std.TransCmp compareBytes :=
  have := transCmp_on compare UInt8.toNat
  inferInstanceAs (Std.TransCmp (List.compareLex _))

instance : Std.LawfulEqCmp compareBytes :=
  have : Std.LawfulEqCmp fun a b : UInt8 => compare a.toNat b.toNat :=
    { compare_self := Std.ReflCmp.compare_self
      eq_of_compare := fun h => UInt8.toNat_inj.mp (Std.LawfulEqCmp.eq_of_compare h) }
  inferInstanceAs (Std.LawfulEqCmp (List.compareLex _))

instance : Std.TransCmp DocumentKey.order :=
  transCmp_on (List.compareLex compare) fun key : DocumentKey => key.path.segments

instance : Std.LawfulEqCmp DocumentKey.order where
  eq_of_compare {j k} h := by
    have segments : j.path.segments = k.path.segments := Std.LawfulEqCmp.eq_of_compare h
    cases j with | mk j _ =>
    cases k with | mk k _ =>
    cases j
    cases k
    simp_all

theorem some_then (o p : Ordering) : some (o.then p) = ifTied (some o) (some p) := by
  cases o <;> rfl

def orderPair (e f : String × Form) : Ordering := (compare e.1 f.1).then (e.2.order f.2)

theorem total_orderItems (as bs : List Form) :
    total orderItems as bs = lexCompare? (total Form.order) as bs := by
  induction as generalizing bs with
  | nil => cases bs <;> rfl
  | cons a as ih =>
    cases bs with
    | nil => rfl
    | cons b bs =>
      simp only [lexCompare?, ← ih]
      exact some_then _ _

theorem total_orderEntries (as bs : List (String × Form)) :
    total orderEntries as bs = lexCompare? (total orderPair) as bs := by
  induction as generalizing bs with
  | nil => cases bs <;> rfl
  | cons a as ih =>
    cases bs with
    | nil => rfl
    | cons b bs =>
      simp only [lexCompare?, ← ih]
      rw [total, total, total, orderPair, ← some_then, Ordering.then_assoc]
      rfl

/-- The total order within a domain. -/
def Domain.orderData : (d : Domain) → d.Data → d.Data → Option Ordering
  | .null => total (α := Unit) compare
  | .boolean => total (α := Bool) compare
  | .number => total Number.order
  | .timestamp => total Timestamp.order
  | .string => total (α := String) compare
  | .bytes => total compareBytes
  | .reference => total DocumentKey.order
  | .geo => total GeoPoint.order
  | .array => lexCompare? (total Form.order)
  | .map => lexCompare? (total orderPair)

theorem total_order_wrap (d : Domain) (x y : d.Data) :
    total Form.order (d.wrap x) (d.wrap y) = d.orderData x y := by
  cases d with
  | array => exact total_orderItems x y
  | map => exact total_orderEntries x y
  | _ => rfl

namespace Form

theorem order_of_domain_ne {f g : Form} (h : f.domain ≠ g.domain) :
    f.order g = f.domain.order g.domain := by
  cases f <;> cases g <;> first | rfl | exact absurd rfl h

theorem domain_isLE {f g : Form} (h : (f.order g).isLE) : (f.domain.order g.domain).isLE := by
  by_cases hd : f.domain = g.domain
  · have same : f.domain.order g.domain = .eq := hd ▸ Std.ReflCmp.compare_self
    rw [same]
    rfl
  · rwa [order_of_domain_ne hd] at h

theorem domain_lt_of_ne {f g : Form} (hd : f.domain ≠ g.domain) (h : (f.order g).isLE) :
    f.domain.order g.domain = .lt := by
  have hle := domain_isLE h
  cases ho : f.domain.order g.domain with
  | lt => rfl
  | eq => exact absurd (Std.LawfulEqCmp.eq_of_compare ho) hd
  | gt => simp [ho] at hle

theorem order_lt_of_domain_lt {f g : Form} (h : f.domain.order g.domain = .lt) :
    f.order g = .lt := by
  rwa [order_of_domain_ne]
  intro hd
  have same : f.domain.order g.domain = .eq := hd ▸ Std.ReflCmp.compare_self
  exact absurd (same.symm.trans h) (by decide)

theorem mirrors_wrap {d : Domain} {x : d.Data} (hx : Mirrors d.orderData x) :
    Mirrors (total order) (d.wrap x) := by
  intro g
  by_cases hd : g.domain = d
  · obtain ⟨y, rfl⟩ := eq_wrap_of_domain hd
    rw [total_order_wrap, total_order_wrap, hx]
  · have hg : g.domain ≠ (d.wrap x).domain := by rwa [d.domain_wrap]
    rw [total, total, order_of_domain_ne hg, order_of_domain_ne hg.symm]
    exact Mirrors.of_oriented _ _

theorem composes_wrap {d : Domain} {x : d.Data} (hx : Composes d.orderData x) :
    Composes (total order) (d.wrap x) := by
  intro g h o p hfg hgh ho hp
  cases hfg
  cases hgh
  by_cases hg : g.domain = d
  · obtain ⟨y, rfl⟩ := eq_wrap_of_domain hg
    by_cases hh : h.domain = d
    · obtain ⟨z, rfl⟩ := eq_wrap_of_domain hh
      have chain := hx y z _ _ (total_order_wrap d x y).symm (total_order_wrap d y z).symm ho hp
      rwa [← total_order_wrap] at chain
    · have beyond : d.order h.domain = .lt := by
        have lt := domain_lt_of_ne (by rwa [d.domain_wrap, ne_comm]) hp
        rwa [d.domain_wrap] at lt
      have before (w : d.Data) : (d.wrap w).order h = .lt :=
        order_lt_of_domain_lt (by rwa [d.domain_wrap])
      rw [total, before x, before y]
      cases hxy : (d.wrap x).order (d.wrap y) with
      | lt | eq => rfl
      | gt => simp [hxy] at ho
  · have beyond := domain_lt_of_ne (by rwa [d.domain_wrap, ne_comm]) ho
    have ends := Std.TransCmp.lt_of_lt_of_isLE beyond (domain_isLE hp)
    rw [total, order_lt_of_domain_lt ends, order_lt_of_domain_lt beyond]
    rfl

theorem mirrors_pair {e : String × Form} (h : Mirrors (total order) e.2) :
    Mirrors (total orderPair) e := by
  intro e'
  have key : Mirrors (total compare) e.1 := .of_oriented e.1
  have second := h e'.2
  have first := key e'.1
  simp only [total] at *
  rw [orderPair, orderPair, some_then, some_then, map_swap_ifTied, first, second]

theorem composes_pair {e : String × Form} (h : Composes (total order) e.2) :
    Composes (total orderPair) e := by
  intro e' e''
  have key : Composes (total compare) e.1 := .of_trans e.1
  have chain := (key e'.1 e''.1).ifTied (h e'.2 e''.2)
  simpa only [total, orderPair, ← some_then] using chain

theorem order_mirrors (f : Form) : Mirrors (total order) f := by
  induction f with
  | null => exact mirrors_wrap (d := .null) (.of_oriented ())
  | boolean b => exact mirrors_wrap (d := .boolean) (.of_oriented b)
  | number n => exact mirrors_wrap (d := .number) (.of_oriented n)
  | timestamp t => exact mirrors_wrap (d := .timestamp) (.of_oriented t)
  | string s => exact mirrors_wrap (d := .string) (.of_oriented s)
  | bytes bs => exact mirrors_wrap (d := .bytes) (.of_oriented bs)
  | reference key => exact mirrors_wrap (d := .reference) (.of_oriented key)
  | geo point => exact mirrors_wrap (d := .geo) (.of_oriented point)
  | array items ih => exact mirrors_wrap (d := .array) (.list ih)
  | map entries ih =>
    exact mirrors_wrap (d := .map) (.list fun e he => mirrors_pair (ih e he))

theorem order_composes (f : Form) : Composes (total order) f := by
  induction f with
  | null => exact composes_wrap (d := .null) (.of_trans ())
  | boolean b => exact composes_wrap (d := .boolean) (.of_trans b)
  | number n => exact composes_wrap (d := .number) (.of_trans n)
  | timestamp t => exact composes_wrap (d := .timestamp) (.of_trans t)
  | string s => exact composes_wrap (d := .string) (.of_trans s)
  | bytes bs => exact composes_wrap (d := .bytes) (.of_trans bs)
  | reference key => exact composes_wrap (d := .reference) (.of_trans key)
  | geo point => exact composes_wrap (d := .geo) (.of_trans point)
  | array items ih => exact composes_wrap (d := .array) (.list ih)
  | map entries ih =>
    exact composes_wrap (d := .map) (.list fun e he => composes_pair (ih e he))

instance : Std.TransCmp order where
  eq_swap {f g} := Option.some.inj (order_mirrors g f)
  isLE_trans {f g h} hfg hgh := by
    have ends := Option.some.inj (order_composes f g h _ _ rfl rfl hfg hgh)
    rw [ends]
    cases ho : f.order g with
    | lt => rfl
    | eq => exact hgh
    | gt => simp [ho] at hfg

theorem orderItems_eq_iff {as bs : List Form} :
    orderItems as bs = .eq ↔ List.Forall₂ (fun f g => f.order g = .eq) as bs := by
  have lists : some (orderItems as bs) = _ := total_orderItems as bs
  rw [← Option.some_inj, lists, lexCompare?_eq_some_eq]
  simp only [total, Option.some_inj]

theorem orderEntries_eq_iff {as bs : List (String × Form)} :
    orderEntries as bs = .eq ↔ List.Forall₂ (fun e e' => orderPair e e' = .eq) as bs := by
  have lists : some (orderEntries as bs) = _ := total_orderEntries as bs
  rw [← Option.some_inj, lists, lexCompare?_eq_some_eq]
  simp only [total, Option.some_inj]

theorem eq_wrap_of_order {f g : Form} (h : f.order g = .eq) :
    ∃ x : f.domain.Data, g = f.domain.wrap x := by
  refine eq_wrap_of_domain ?_
  by_cases same : f.domain = g.domain
  · exact same.symm
  · rw [order_of_domain_ne same] at h
    exact absurd (Std.LawfulEqCmp.eq_of_compare h) same

/-- What it takes for two forms to tie. -/
inductive Tie : Form → Form → Prop
  | same (f : Form) : Tie f f
  | number {m n : Number} : m.order n = .eq → Tie (number m) (number n)
  | geo {a b : GeoPoint} : a.latitude.order b.latitude = .eq → a.longitude.order b.longitude = .eq →
      Tie (geo a) (geo b)
  | array {as bs : List Form} : List.Forall₂ (fun f g => f.order g = .eq) as bs →
      Tie (array as) (array bs)
  | map {as bs : List (String × Form)} : List.Forall₂ (fun e e' => orderPair e e' = .eq) as bs →
      Tie (map as) (map bs)

theorem tie_of_order {f g : Form} (h : f.order g = .eq) : Tie f g := by
  cases f with
  | null =>
    obtain ⟨_, rfl⟩ := eq_wrap_of_order h
    exact .same _
  | boolean b =>
    obtain ⟨c, rfl⟩ : ∃ c, g = boolean c := eq_wrap_of_order h
    have tie : compare b c = .eq := h
    rw [Std.LawfulEqCmp.eq_of_compare tie]
    exact .same _
  | number m =>
    obtain ⟨n, rfl⟩ : ∃ n, g = number n := eq_wrap_of_order h
    exact .number h
  | timestamp t =>
    obtain ⟨u, rfl⟩ : ∃ u, g = timestamp u := eq_wrap_of_order h
    have tie : Timestamp.order t u = .eq := h
    rw [Std.LawfulEqCmp.eq_of_compare tie]
    exact .same _
  | string s =>
    obtain ⟨t, rfl⟩ : ∃ t, g = string t := eq_wrap_of_order h
    have tie : compare s t = .eq := h
    rw [Std.LawfulEqCmp.eq_of_compare tie]
    exact .same _
  | bytes bs =>
    obtain ⟨cs, rfl⟩ : ∃ cs, g = bytes cs := eq_wrap_of_order h
    have tie : compareBytes bs cs = .eq := h
    rw [Std.LawfulEqCmp.eq_of_compare tie]
    exact .same _
  | reference j =>
    obtain ⟨k, rfl⟩ : ∃ k, g = reference k := eq_wrap_of_order h
    have tie : DocumentKey.order j k = .eq := h
    rw [Std.LawfulEqCmp.eq_of_compare tie]
    exact .same _
  | geo a =>
    obtain ⟨b, rfl⟩ : ∃ b, g = geo b := eq_wrap_of_order h
    obtain ⟨latitude, longitude⟩ := Ordering.then_eq_eq.mp h
    exact .geo latitude longitude
  | array as =>
    obtain ⟨bs, rfl⟩ : ∃ bs, g = array bs := eq_wrap_of_order h
    exact .array (orderItems_eq_iff.mp h)
  | map as =>
    obtain ⟨bs, rfl⟩ : ∃ bs, g = map bs := eq_wrap_of_order h
    exact .map (orderEntries_eq_iff.mp h)

end Form

namespace Value

instance : Std.TransCmp order := transCmp_on Form.order form

theorem order_toValue (m n : Number) : m.toValue.order n.toValue = m.order n := by
  cases m <;> cases n <;> rfl

theorem order_numbers (m n : Number) :
    m.toValue.order n.toValue = compare m.denoted? n.denoted? := by
  rw [order_toValue, Number.order_eq]

/-- The total order is a total preorder of all values, and on numbers it is the order of what they
denote, NaN first. -/
theorem order_total_preorder (a b c : Value) :
    a.order a = .eq ∧ b.order a = (a.order b).swap ∧
      (a.order b ≠ .gt → b.order c ≠ .gt → a.order c ≠ .gt) ∧
      ∀ m n : Number, m.toValue.order n.toValue = compare m.denoted? n.denoted? := by
  refine ⟨Std.ReflCmp.compare_self, Std.OrientedCmp.eq_swap, ?_, order_numbers⟩
  simp only [← Ordering.isLE_iff_ne_gt]
  exact Std.TransCmp.isLE_trans

/-- Above `2 ^ 53` neighbouring integers share their nearest double; the order tells them apart. -/
theorem order_near_two_pow_53 :
    let before := array [integer 9007199254740992]
    let between := array [double (.ofBits 0x4340000000000000)]
    let after := array [integer 9007199254740993]
    before.order between ≠ .gt ∧ between.order after ≠ .gt ∧ before.order after ≠ .gt := by
  intro before between after
  have first : before.order between ≠ .gt := by decide +kernel
  have second : between.order after ≠ .gt := by decide +kernel
  exact ⟨first, second, (order_total_preorder before between after).2.2.1 first second⟩

end Value
end DocQuery
