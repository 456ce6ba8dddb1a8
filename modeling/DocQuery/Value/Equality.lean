import DocQuery.Value.Basic

/-! Equality of values as queries see it, and sameness, which also tells apart the representations of
one number. -/
namespace DocQuery

/-- Numbers are equal by what they denote, whichever kind they are. -/
def numbersEqual (d : Double) : Value → Bool
  | .integer i => !d.isNaN && compareIntDouble i d == .eq
  | .double e => d.equals e
  | _ => false

def componentsEqual : List Double → List Double → Bool
  | [], [] => true
  | d :: ds, e :: es => d.equals e && componentsEqual ds es
  | _, _ => false

def componentsEqualItems : List Double → List Value → Bool
  | [], [] => true
  | d :: ds, v :: vs => numbersEqual d v && componentsEqualItems ds vs
  | _, _ => false

/-- A vector equals the maps with the same two entries as the one that stands for it. -/
def vectorEqualsMap (components : List Double) (entries : Fields) : Bool :=
  entries.length == 2 &&
    (match Entries.find? Value.vectorTypeKey entries with
      | some (.string name) => name == Value.vectorTypeName
      | _ => false) &&
    (match Entries.find? Value.vectorItemsKey entries with
      | some (.array items) => componentsEqualItems components items
      | _ => false)

mutual

/-- Values of different domains differ; a NaN equals nothing. Maps are equal when each key of one has
an equal value in the other and none is left over. -/
def Value.equals : Value → Value → Bool
  | .null, .null => true
  | .boolean a, .boolean b => a == b
  | .integer a, .integer b => a == b
  | .integer a, .double b => numbersEqual b (.integer a)
  | .double a, b => numbersEqual a b
  | .timestamp a, .timestamp b => a == b
  | .string a, .string b => a == b
  | .bytes a, .bytes b => a == b
  | .reference a, .reference b => a == b
  | .geo a, .geo b => a.latitude.equals b.latitude && a.longitude.equals b.longitude
  | .array as, .array bs => itemsEqual as bs
  | .map as, .map bs => as.length == bs.length && entriesEqual as bs
  | .map as, .vector components => vectorEqualsMap components as
  | .vector components, .map bs => vectorEqualsMap components bs
  | .vector as, .vector bs => componentsEqual as bs
  | _, _ => false

def itemsEqual : List Value → List Value → Bool
  | [], [] => true
  | a :: as, b :: bs => a.equals b && itemsEqual as bs
  | _, _ => false

def entriesEqual : List (String × Value) → List (String × Value) → Bool
  | [], _ => true
  | (k, a) :: as, bs =>
    (match Entries.find? k bs with
      | some b => a.equals b
      | none => false) && entriesEqual as bs

end

mutual

/-- Sameness up to the order of map entries. -/
def Value.same : Value → Value → Bool
  | .null, .null => true
  | .boolean a, .boolean b => a == b
  | .integer a, .integer b => a == b
  | .double a, .double b => a == b
  | .timestamp a, .timestamp b => a == b
  | .string a, .string b => a == b
  | .bytes a, .bytes b => a == b
  | .reference a, .reference b => a == b
  | .geo a, .geo b => a == b
  | .array as, .array bs => itemsSame as bs
  | .map as, .map bs => as.length == bs.length && entriesSame as bs
  | .vector as, .vector bs => as == bs
  | _, _ => false

def itemsSame : List Value → List Value → Bool
  | [], [] => true
  | a :: as, b :: bs => a.same b && itemsSame as bs
  | _, _ => false

def entriesSame : List (String × Value) → List (String × Value) → Bool
  | [], _ => true
  | (k, a) :: as, bs =>
    (match Entries.find? k bs with
      | some b => a.same b
      | none => false) && entriesSame as bs

end
end DocQuery
