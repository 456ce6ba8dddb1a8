import DocQuery.Proofs.Entries
import DocQuery.Proofs.Value.TotalOrder
import DocQuery.Value.Equality

/-! The domain order of values: it is reversed with its arguments, it composes, definedness included, it
agrees with the total order wherever it is defined, and its ties are the equal values. -/
namespace DocQuery

namespace Number

theorem compare?_mirrors (n : Number) : Mirrors compare? n := by
  intro m
  rw [compare?_eq, compare?_eq]
  cases m.denoted? <;> cases n.denoted? <;> simp [Int.compare_swap]

theorem compare?_composes (n : Number) : Composes compare? n := by
  intro m k o p hnm hmk ho hp
  rw [compare?_eq] at hnm hmk ⊢
  cases hn : n.denoted? <;> cases hm : m.denoted? <;> cases hk : k.denoted? <;> simp_all
  exact Option.some.inj (Composes.of_trans _ _ _ _ _ (congrArg some hnm) (congrArg some hmk) ho hp)

theorem compare?_extends (n : Number) : Extends compare? (total order) n := by
  intro m o h
  rw [compare?_eq] at h
  rw [total, order_eq]
  cases hn : n.denoted? <;> cases hm : m.denoted? <;> simp_all
  exact h

theorem compare?_of_tie {m n : Number} (h : m.order n = .eq) : m.compare? = n.compare? := by
  rw [order_eq, Std.LawfulEqCmp.compare_eq_iff_eq] at h
  funext k
  rw [compare?_eq, compare?_eq, h]

end Number

namespace Double

theorem compare?_mirrors (d : Double) : Mirrors compare? d :=
  fun e => Number.compare?_mirrors (.double d) (.double e)

theorem compare?_composes (d : Double) : Composes compare? d :=
  fun e e' => Number.compare?_composes (.double d) (.double e) (.double e')

theorem compare?_extends (d : Double) : Extends compare? (total order) d :=
  fun e => Number.compare?_extends (.double d) (.double e)

theorem compare?_of_tie {d e : Double} (h : d.order e = .eq) : d.compare? = e.compare? := by
  have tie : Number.order (.double d) (.double e) = .eq := h
  funext k
  exact congrFun (Number.compare?_of_tie tie) (.double k)

end Double

namespace GeoPoint

theorem compare?_eq (a b : GeoPoint) : a.compare? b =
    ifTied (a.latitude.compare? b.latitude) (a.longitude.compare? b.longitude) := rfl

theorem compare?_mirrors (a : GeoPoint) : Mirrors compare? a := by
  intro b
  rw [compare?_eq, compare?_eq, map_swap_ifTied, ← a.latitude.compare?_mirrors,
    ← a.longitude.compare?_mirrors]

theorem compare?_composes (a : GeoPoint) : Composes compare? a := by
  intro b c
  simp only [compare?_eq]
  exact (a.latitude.compare?_composes _ _).ifTied (a.longitude.compare?_composes _ _)

theorem compare?_extends (a : GeoPoint) : Extends compare? (total order) a := by
  intro b o h
  rw [total, order, some_then]
  exact ifTied_extends (a.latitude.compare?_extends _) (a.longitude.compare?_extends _) h

theorem compare?_of_ties {a b : GeoPoint} (latitude : a.latitude.order b.latitude = .eq)
    (longitude : a.longitude.order b.longitude = .eq) : a.compare? = b.compare? := by
  funext c
  rw [compare?_eq, compare?_eq, Double.compare?_of_tie latitude, Double.compare?_of_tie longitude]

end GeoPoint

def comparePair? (e f : String × Form) : Option Ordering :=
  ifTied (some (compare e.1 f.1)) (e.2.compare? f.2)

theorem compareItems?_eq (as bs : List Form) :
    compareItems? as bs = lexCompare? Form.compare? as bs := by
  induction as generalizing bs with
  | nil => cases bs <;> rfl
  | cons a as ih =>
    cases bs with
    | nil => rfl
    | cons b bs =>
      simp only [compareItems?, lexCompare?, ih]
      rfl

theorem compareEntries?_eq (as bs : List (String × Form)) :
    compareEntries? as bs = lexCompare? comparePair? as bs := by
  induction as generalizing bs with
  | nil => cases bs <;> rfl
  | cons a as ih =>
    cases bs with
    | nil => rfl
    | cons b bs =>
      simp only [compareEntries?, lexCompare?, comparePair?, ih]
      cases compare a.1 b.1 <;> rfl

/-- The domain order within a domain. -/
def Domain.compareData? : (d : Domain) → d.Data → d.Data → Option Ordering
  | .number => Number.compare?
  | .geo => GeoPoint.compare?
  | .array => lexCompare? Form.compare?
  | .map => lexCompare? comparePair?
  | d => d.orderData

theorem compare?_wrap (d : Domain) (x y : d.Data) :
    (d.wrap x).compare? (d.wrap y) = d.compareData? x y := by
  cases d with
  | array => exact compareItems?_eq x y
  | map => exact compareEntries?_eq x y
  | _ => rfl

namespace Form

theorem compare?_of_domain_ne {f g : Form} (h : f.domain ≠ g.domain) : f.compare? g = none := by
  cases f <;> cases g <;> first | rfl | exact absurd rfl h

theorem domain_eq_of_compare? {f g : Form} (h : f.compare? g = some o) : g.domain = f.domain := by
  by_contra hd
  rw [compare?_of_domain_ne (Ne.symm hd)] at h
  contradiction

theorem compare?_mirrors_wrap {d : Domain} {x : d.Data} (hx : Mirrors d.compareData? x) :
    Mirrors compare? (d.wrap x) := by
  intro g
  by_cases hd : g.domain = d
  · obtain ⟨y, rfl⟩ := eq_wrap_of_domain hd
    rw [compare?_wrap, compare?_wrap, hx]
  · have hg : g.domain ≠ (d.wrap x).domain := by rwa [d.domain_wrap]
    rw [compare?_of_domain_ne hg, compare?_of_domain_ne hg.symm]
    rfl

theorem compare?_composes_wrap {d : Domain} {x : d.Data} (hx : Composes d.compareData? x) :
    Composes compare? (d.wrap x) := by
  intro g h o p hfg hgh ho hp
  obtain ⟨y, rfl⟩ := eq_wrap_of_domain ((domain_eq_of_compare? hfg).trans (d.domain_wrap x))
  obtain ⟨z, rfl⟩ := eq_wrap_of_domain ((domain_eq_of_compare? hgh).trans (d.domain_wrap y))
  rw [compare?_wrap] at *
  exact hx y z o p hfg hgh ho hp

theorem compare?_extends_wrap {d : Domain} {x : d.Data}
    (hx : Extends d.compareData? d.orderData x) :
    Extends compare? (total order) (d.wrap x) := by
  intro g o h
  obtain ⟨y, rfl⟩ := eq_wrap_of_domain ((domain_eq_of_compare? h).trans (d.domain_wrap x))
  rw [compare?_wrap] at h
  rw [total_order_wrap]
  exact hx y o h

theorem compare?_mirrors (f : Form) : Mirrors compare? f := by
  induction f with
  | null => exact compare?_mirrors_wrap (d := .null) (.of_oriented ())
  | boolean b => exact compare?_mirrors_wrap (d := .boolean) (.of_oriented b)
  | number n => exact compare?_mirrors_wrap (d := .number) n.compare?_mirrors
  | timestamp t => exact compare?_mirrors_wrap (d := .timestamp) (.of_oriented t)
  | string s => exact compare?_mirrors_wrap (d := .string) (.of_oriented s)
  | bytes bs => exact compare?_mirrors_wrap (d := .bytes) (.of_oriented bs)
  | reference key => exact compare?_mirrors_wrap (d := .reference) (.of_oriented key)
  | geo point => exact compare?_mirrors_wrap (d := .geo) point.compare?_mirrors
  | array items ih => exact compare?_mirrors_wrap (d := .array) (.list ih)
  | map entries ih =>
    refine compare?_mirrors_wrap (d := .map) (.list fun e he e' => ?_)
    have key : Mirrors (total compare) e.1 := .of_oriented e.1
    rw [comparePair?, comparePair?, map_swap_ifTied, ← ih e he e'.2]
    exact congrArg (ifTied · _) (key e'.1)

theorem compare?_composes (f : Form) : Composes compare? f := by
  induction f with
  | null => exact compare?_composes_wrap (d := .null) (.of_trans ())
  | boolean b => exact compare?_composes_wrap (d := .boolean) (.of_trans b)
  | number n => exact compare?_composes_wrap (d := .number) n.compare?_composes
  | timestamp t => exact compare?_composes_wrap (d := .timestamp) (.of_trans t)
  | string s => exact compare?_composes_wrap (d := .string) (.of_trans s)
  | bytes bs => exact compare?_composes_wrap (d := .bytes) (.of_trans bs)
  | reference key => exact compare?_composes_wrap (d := .reference) (.of_trans key)
  | geo point => exact compare?_composes_wrap (d := .geo) point.compare?_composes
  | array items ih => exact compare?_composes_wrap (d := .array) (.list ih)
  | map entries ih =>
    refine compare?_composes_wrap (d := .map) (.list fun e he e' e'' => ?_)
    have key : Composes (total compare) e.1 := .of_trans e.1
    exact (key e'.1 e''.1).ifTied (ih e he e'.2 e''.2)

theorem compare?_extends (f : Form) : Extends compare? (total order) f := by
  induction f with
  | number n => exact compare?_extends_wrap (d := .number) n.compare?_extends
  | geo point => exact compare?_extends_wrap (d := .geo) point.compare?_extends
  | array items ih => exact compare?_extends_wrap (d := .array) (.list ih)
  | map entries ih =>
    refine compare?_extends_wrap (d := .map) (.list fun e he e' o h => ?_)
    rw [total, orderPair, some_then]
    exact ifTied_extends (fun _ hk => hk) (ih e he e'.2) h
  | null => exact compare?_extends_wrap (d := .null) (x := ()) fun _ _ h => h
  | boolean b => exact compare?_extends_wrap (d := .boolean) fun _ _ h => h
  | timestamp t => exact compare?_extends_wrap (d := .timestamp) fun _ _ h => h
  | string s => exact compare?_extends_wrap (d := .string) fun _ _ h => h
  | bytes bs => exact compare?_extends_wrap (d := .bytes) fun _ _ h => h
  | reference key => exact compare?_extends_wrap (d := .reference) fun _ _ h => h

theorem compare?_wrap_congr {d : Domain} {x y : d.Data} (h : d.compareData? x = d.compareData? y) :
    compare? (d.wrap x) = compare? (d.wrap y) := by
  funext g
  by_cases hd : g.domain = d
  · obtain ⟨z, rfl⟩ := eq_wrap_of_domain hd
    rw [compare?_wrap, compare?_wrap, h]
  · rw [compare?_of_domain_ne (by rwa [d.domain_wrap, ne_comm]),
      compare?_of_domain_ne (by rwa [d.domain_wrap, ne_comm])]

theorem comparePair?_of_tie {e e' : String × Form} (h : orderPair e e' = .eq)
    (ih : e.2.order e'.2 = .eq → e.2.compare? = e'.2.compare?) : comparePair? e = comparePair? e' := by
  obtain ⟨key, value⟩ := Ordering.then_eq_eq.mp h
  funext f
  rw [comparePair?, comparePair?, Std.LawfulEqCmp.eq_of_compare key, ih value]

/-- Ties of the total order compare alike with everything, NaNs included. -/
theorem compare?_of_tie (f : Form) : ∀ g : Form, f.order g = .eq → f.compare? = g.compare? := by
  induction f with
  | number m =>
    intro g h
    cases tie_of_order h with
    | same => rfl
    | number tie => exact compare?_wrap_congr (d := .number) (Number.compare?_of_tie tie)
  | geo a =>
    intro g h
    cases tie_of_order h with
    | same => rfl
    | geo latitude longitude =>
      have parts := GeoPoint.compare?_of_ties latitude longitude
      exact compare?_wrap_congr (d := .geo) parts
  | array items ih =>
    intro g h
    cases tie_of_order h with
    | same => rfl
    | array ties =>
      refine compare?_wrap_congr (d := .array) (lexCompare?_congr ?_)
      exact forall₂_imp_mem ties fun f hf g _ => ih f hf g
  | map entries ih =>
    intro g h
    cases tie_of_order h with
    | same => rfl
    | map ties =>
      refine compare?_wrap_congr (d := .map) (lexCompare?_congr ?_)
      exact forall₂_imp_mem ties fun e he e' _ tie => comparePair?_of_tie tie (ih e he e'.2)
  | _ =>
    intro g h
    cases tie_of_order h
    rfl

end Form
end DocQuery
