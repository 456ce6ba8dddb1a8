import Mathlib.Data.List.Forall2

/-! Comparisons that may be undefined, taken at one argument at a time so that an induction over
nested data can carry them: reversal, composition, and what lexicographic comparison makes of both. -/
namespace DocQuery

def total (cmp : α → α → Ordering) (a b : α) : Option Ordering := some (cmp a b)

def ifTied (first rest : Option Ordering) : Option Ordering :=
  match first with
  | some .eq => rest
  | result => result

/-- Compares by the first items that do not tie; a list comes before those that go on from it. -/
def lexCompare? (cmp : α → α → Option Ordering) : List α → List α → Option Ordering
  | [], [] => some .eq
  | [], _ :: _ => some .lt
  | _ :: _, [] => some .gt
  | a :: as, b :: bs => ifTied (cmp a b) (lexCompare? cmp as bs)

def Mirrors (cmp : α → α → Option Ordering) (a : α) : Prop :=
  ∀ b, cmp b a = (cmp a b).map Ordering.swap

/-- Where neither of two comparisons turns back, the comparison of the ends is the first of them that
decides. -/
def Chains (ab bc ac : Option Ordering) : Prop :=
  ∀ o p, ab = some o → bc = some p → o.isLE → p.isLE → ac = some (o.then p)

def Composes (cmp : α → α → Option Ordering) (a : α) : Prop :=
  ∀ b c, Chains (cmp a b) (cmp b c) (cmp a c)

/-- The second comparison decides as the first one wherever that is defined. -/
def Extends (cmp cmp' : α → α → Option Ordering) (a : α) : Prop :=
  ∀ b o, cmp a b = some o → cmp' a b = some o

theorem map_swap_ifTied (first rest : Option Ordering) :
    (ifTied first rest).map Ordering.swap =
      ifTied (first.map Ordering.swap) (rest.map Ordering.swap) := by
  rcases first with _ | _ | _ | _ <;> rfl

theorem ifTied_isLE (h : ifTied first rest = some o) (ho : o.isLE) :
    first = some .lt ∧ o = .lt ∨ first = some .eq ∧ rest = some o := by
  rcases first with _ | _ | _ | _
  · contradiction
  · exact .inl ⟨rfl, (Option.some.inj h).symm⟩
  · exact .inr ⟨rfl, h⟩
  · cases Option.some.inj h
    contradiction

theorem Chains.ifTied (hf : Chains ab bc ac) (hr : Chains ab' bc' ac') :
    Chains (ifTied ab ab') (ifTied bc bc') (ifTied ac ac') := by
  intro o p hab hbc ho hp
  rcases ifTied_isLE hab ho with ⟨rfl, rfl⟩ | ⟨rfl, hab⟩ <;>
    rcases ifTied_isLE hbc hp with ⟨rfl, rfl⟩ | ⟨rfl, hbc⟩ <;>
    cases hf _ _ rfl rfl rfl rfl
  · rfl
  · rfl
  · cases o with
    | lt | eq => rfl
    | gt => contradiction
  · exact hr o p hab hbc ho hp

theorem ifTied_eq_some_eq : ifTied first rest = some .eq ↔ first = some .eq ∧ rest = some .eq := by
  rcases first with _ | _ | _ | _ <;> simp [ifTied]

theorem ifTied_extends (hf : ∀ o, first = some o → first' = some o)
    (hr : ∀ o, rest = some o → rest' = some o) (h : ifTied first rest = some o) :
    ifTied first' rest' = some o := by
  rcases first with _ | o'
  · contradiction
  · rw [hf o' rfl]
    cases o' with
    | lt | gt => exact h
    | eq => exact hr o h

namespace Mirrors

theorem of_oriented {cmp : α → α → Ordering} [Std.OrientedCmp cmp] (a : α) :
    Mirrors (total cmp) a := by
  intro b
  simp only [total, Option.map_some, @Std.OrientedCmp.eq_swap _ cmp _ b a]

theorem list {cmp : α → α → Option Ordering} {as : List α} (items : ∀ a ∈ as, Mirrors cmp a) :
    Mirrors (lexCompare? cmp) as := by
  induction as with
  | nil => intro bs; cases bs <;> rfl
  | cons a as ih =>
    intro bs
    cases bs with
    | nil => rfl
    | cons b bs =>
      have rest := ih (fun x hx => items x (List.mem_cons_of_mem a hx)) bs
      simp only [lexCompare?, map_swap_ifTied, items a List.mem_cons_self b, rest]

end Mirrors

namespace Composes

theorem of_trans {cmp : α → α → Ordering} [Std.TransCmp cmp] (a : α) :
    Composes (total cmp) a := by
  intro b c o p ab bc ho hp
  simp only [total, Option.some.injEq] at ab bc ⊢
  subst ab bc
  cases ab : cmp a b with
  | lt => exact Std.TransCmp.lt_of_lt_of_isLE ab hp
  | eq => exact Std.TransCmp.congr_left ab
  | gt => simp [ab] at ho

theorem list {cmp : α → α → Option Ordering} {as : List α} (items : ∀ a ∈ as, Composes cmp a) :
    Composes (lexCompare? cmp) as := by
  induction as with
  | nil =>
    intro bs cs o p hab hbc ho hp
    cases bs with
    | nil =>
      cases Option.some.inj hab
      exact hbc
    | cons b bs =>
      cases Option.some.inj hab
      cases cs with
      | nil =>
        cases Option.some.inj hbc
        contradiction
      | cons c cs => rfl
  | cons a as ih =>
    intro bs cs
    cases bs with
    | nil =>
      intro o p hab _ ho
      cases Option.some.inj hab
      contradiction
    | cons b bs =>
      cases cs with
      | nil =>
        intro o p _ hbc _ hp
        cases Option.some.inj hbc
        contradiction
      | cons c cs =>
        exact (items a List.mem_cons_self b c).ifTied
          (ih (fun x hx => items x (List.mem_cons_of_mem a hx)) bs cs)

end Composes

theorem Extends.list {cmp cmp' : α → α → Option Ordering} {as : List α}
    (items : ∀ a ∈ as, Extends cmp cmp' a) :
    Extends (lexCompare? cmp) (lexCompare? cmp') as := by
  induction as with
  | nil => intro bs o h; cases bs <;> exact h
  | cons a as ih =>
    intro bs o h
    cases bs with
    | nil => exact h
    | cons b bs =>
      exact ifTied_extends (items a List.mem_cons_self b)
        (ih (fun x hx => items x (List.mem_cons_of_mem a hx)) bs) h

theorem lexCompare?_eq_some_eq {cmp : α → α → Option Ordering} {as bs : List α} :
    lexCompare? cmp as bs = some .eq ↔ List.Forall₂ (fun a b => cmp a b = some .eq) as bs := by
  induction as generalizing bs with
  | nil => cases bs <;> simp [lexCompare?]
  | cons a as ih => cases bs <;> simp [lexCompare?, ifTied_eq_some_eq, ih]

theorem lexCompare?_congr {cmp : α → α → Option Ordering} {as bs : List α}
    (h : List.Forall₂ (fun a b => cmp a = cmp b) as bs) : lexCompare? cmp as = lexCompare? cmp bs := by
  induction h with
  | nil => rfl
  | cons first _ ih =>
    funext cs
    cases cs with
    | nil => rfl
    | cons c cs => rw [lexCompare?, lexCompare?, first, ih]

end DocQuery
