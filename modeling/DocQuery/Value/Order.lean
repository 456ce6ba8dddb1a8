import DocQuery.Value.Form

/-! The two orders of values. The domain order relates values of one domain only and never a NaN; the
total order relates all values, domain by domain, with NaN before every number. -/
namespace DocQuery

namespace Number

def compare? : Number → Number → Option Ordering
  | integer a, integer b => some (compare a.toInt b.toInt)
  | integer a, double b => if b.isNaN then none else some (compareIntDouble a b)
  | double a, integer b => if a.isNaN then none else some (compareIntDouble b a).swap
  | double a, double b => a.compare? b

def order : Number → Number → Ordering
  | integer a, integer b => compare a.toInt b.toInt
  | integer a, double b => if b.isNaN then .gt else compareIntDouble a b
  | double a, integer b => if a.isNaN then .lt else (compareIntDouble b a).swap
  | double a, double b => a.order b

end Number

namespace GeoPoint

def compare? (a b : GeoPoint) : Option Ordering :=
  match a.latitude.compare? b.latitude with
  | some .eq => a.longitude.compare? b.longitude
  | result => result

def order (a b : GeoPoint) : Ordering :=
  (a.latitude.order b.latitude).then (a.longitude.order b.longitude)

end GeoPoint

def compareBytes (a b : List UInt8) : Ordering :=
  a.compareLex (fun x y => compare x.toNat y.toNat) b

mutual

/-- Lists compare by their first unequal items, and the whole comparison is undefined where that of
items is. -/
def Form.compare? : Form → Form → Option Ordering
  | .null, .null => some .eq
  | .boolean a, .boolean b => some (compare a b)
  | .number a, .number b => a.compare? b
  | .timestamp a, .timestamp b => some (a.order b)
  | .string a, .string b => some (compare a b)
  | .bytes a, .bytes b => some (compareBytes a b)
  | .reference a, .reference b => some (a.order b)
  | .geo a, .geo b => a.compare? b
  | .array as, .array bs => compareItems? as bs
  | .map as, .map bs => compareEntries? as bs
  | _, _ => none

def compareItems? : List Form → List Form → Option Ordering
  | [], [] => some .eq
  | [], _ :: _ => some .lt
  | _ :: _, [] => some .gt
  | a :: as, b :: bs =>
    match a.compare? b with
    | some .eq => compareItems? as bs
    | result => result

def compareEntries? : List (String × Form) → List (String × Form) → Option Ordering
  | [], [] => some .eq
  | [], _ :: _ => some .lt
  | _ :: _, [] => some .gt
  | (j, a) :: as, (k, b) :: bs =>
    match compare j k with
    | .eq =>
      match a.compare? b with
      | some .eq => compareEntries? as bs
      | result => result
    | result => some result

end

mutual

def Form.order : Form → Form → Ordering
  | .null, .null => .eq
  | .boolean a, .boolean b => compare a b
  | .number a, .number b => a.order b
  | .timestamp a, .timestamp b => a.order b
  | .string a, .string b => compare a b
  | .bytes a, .bytes b => compareBytes a b
  | .reference a, .reference b => a.order b
  | .geo a, .geo b => a.order b
  | .array as, .array bs => orderItems as bs
  | .map as, .map bs => orderEntries as bs
  | a, b => a.domain.order b.domain

def orderItems : List Form → List Form → Ordering
  | [], [] => .eq
  | [], _ :: _ => .lt
  | _ :: _, [] => .gt
  | a :: as, b :: bs => (a.order b).then (orderItems as bs)

def orderEntries : List (String × Form) → List (String × Form) → Ordering
  | [], [] => .eq
  | [], _ :: _ => .lt
  | _ :: _, [] => .gt
  | (j, a) :: as, (k, b) :: bs => (compare j k).then ((a.order b).then (orderEntries as bs))

end

namespace Value

/-- The domain order, undefined between domains and wherever a NaN decides. -/
def compare? (a b : Value) : Option Ordering := a.form.compare? b.form

/-- The total order. -/
def order (a b : Value) : Ordering := a.form.order b.form

end Value
end DocQuery
