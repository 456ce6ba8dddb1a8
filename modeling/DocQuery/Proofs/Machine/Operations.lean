import DocQuery.Eval.Collection
import DocQuery.Eval.Time
import DocQuery.Path.Resource

/-! A machine with words of 64 bits, which stops where a position is beyond the end of a list or a result leaves the
words. The engine computes with it the segments of keys, numbers of instants and items of arrays, and never stops it. -/
namespace DocQuery
namespace Machine

/-- Why the machine stops. -/
inductive Panic where
  | position (i length : Nat)
  | part (start stop length : Nat)
  | insideCharacter
  | overflow
  deriving DecidableEq

abbrev Run := Except Panic

section Operations

variable {α β : Type}

def item (items : List α) (i : Nat) : Run α :=
  match items[i]? with
  | some a => return a
  | none => throw (.position i items.length)

/-- The items from one position up to another. -/
def part (items : List α) (start stop : Nat) : Run (List α) :=
  if start ≤ stop ∧ stop ≤ items.length then return (items.drop start).take (stop - start)
  else throw (.part start stop items.length)

def signed (i : Int) : Run Int :=
  if -0x8000000000000000 ≤ i ∧ i < 0x8000000000000000 then return i else throw .overflow

/-- A signed number in two words. -/
def wide (i : Int) : Run Int :=
  if -0x80000000000000000000000000000000 ≤ i ∧ i < 0x80000000000000000000000000000000 then return i
  else throw .overflow

def plus (m n : Nat) : Run Nat := if m + n < 0x10000000000000000 then return m + n else throw .overflow

def minus (m n : Nat) : Run Nat := if n ≤ m then return m - n else throw .overflow

/-- The signed word nearest to a number. -/
def saturate (i : Int) : Int := max (-0x8000000000000000) (min i 0x7fffffffffffffff)

/-- The bits of a signed word, read as a size. -/
def asSize (i : Int) : Nat := (i % 0x10000000000000000).toNat

/-- A list as memory holds it. -/
structure Vec (α : Type) where
  items : List α
  fits : items.length < 0x8000000000000000

/-- Runs code on what memory can hold. Nothing else ever occurs; the result that the code should have stands for it. -/
def held (fits : Prop) [Decidable fits] (code : fits → Run α) (rule : α) : Run α :=
  if h : fits then code h else return rule

theorem item_eq {items : List α} {i : Nat} (h : i < items.length) : item items i = .ok items[i] := by
  rw [item, List.getElem?_eq_getElem h]
  rfl

theorem part_eq {items : List α} {start stop : Nat} (order : start ≤ stop) (h : stop ≤ items.length) :
    part items start stop = .ok ((items.drop start).take (stop - start)) := by
  rw [part, if_pos ⟨order, h⟩]
  rfl

theorem signed_eq {i : Int} (low : -0x8000000000000000 ≤ i) (high : i < 0x8000000000000000) : signed i = .ok i := by
  rw [signed, if_pos ⟨low, high⟩]
  rfl

theorem wide_eq {i : Int} (low : -0x80000000000000000000000000000000 ≤ i)
    (high : i < 0x80000000000000000000000000000000) : wide i = .ok i := by
  rw [wide, if_pos ⟨low, high⟩]
  rfl

theorem plus_eq {m n : Nat} (h : m + n < 0x10000000000000000) : plus m n = .ok (m + n) := by
  rw [plus, if_pos h]
  rfl

theorem minus_eq {m n : Nat} (h : n ≤ m) : minus m n = .ok (m - n) := by
  rw [minus, if_pos h]
  rfl

theorem asSize_eq {i : Int} (low : 0 ≤ i) (high : i < 0x8000000000000000) : asSize i = i.toNat := by
  rw [asSize, Int.emod_eq_of_lt low (by omega)]

theorem held_eq {fits : Prop} [Decidable fits] {code : fits → Run α} {rule : α} (h : ∀ fits, code fits = .ok rule) :
    held fits code rule = .ok rule := by
  rw [held]
  split
  · exact h _
  · rfl

end Operations

section Paths

variable (path : ResourcePath)

def documentId : Run String := do item path.segments (← minus path.length 1)

def collectionId : Run String := do item path.segments (← minus path.length 2)

/-- The path without its last segment; the subtraction stops at zero. -/
def parent : Run ResourcePath := do return ⟨← part path.segments 0 (path.length - 1)⟩

end Paths

theorem documentId_eq (key : DocumentKey) : documentId key.path = .ok key.documentId := by
  obtain ⟨_, nonempty⟩ := key.ends_in_document
  have last : key.path.length - 1 < key.path.segments.length := Nat.sub_lt (Nat.pos_of_ne_zero nonempty) Nat.one_pos
  rw [documentId, minus_eq (Nat.pos_of_ne_zero nonempty)]
  exact item_eq last

theorem collectionId_eq (key : DocumentKey) : collectionId key.path = .ok key.collectionId := by
  obtain ⟨even, nonempty⟩ := key.ends_in_document
  have two : 2 ≤ key.path.length := by omega
  have before : key.path.length - 2 < key.path.segments.length := Nat.sub_lt (Nat.pos_of_ne_zero nonempty) Nat.two_pos
  rw [collectionId, minus_eq two]
  exact item_eq before

theorem parent_eq (path : ResourcePath) : parent path = .ok path.parent := by
  have cut : part path.segments 0 (path.length - 1) = .ok (path.segments.take (path.length - 1)) :=
    part_eq (Nat.zero_le _) (Nat.sub_le _ 1)
  rw [parent, cut, ResourcePath.parent, List.dropLast_eq_take]
  rfl

/-- A path of one segment is no key: there is no collection that the document is in. -/
example : collectionId ⟨["a"]⟩ = .error .overflow := rfl

section Instants

/-- An instant, given by its seconds and nanoseconds, in a unit. -/
def unixNumber (unit : TimeUnit) (seconds : Int) (nanos : Nat) : Run Int :=
  match unit with
  | .micros => do signed ((← signed (seconds * 1000000)) + nanos / 1000)
  | .millis => do signed ((← signed (seconds * 1000)) + nanos / 1000000)
  | .seconds => return seconds

def ofUnixNumber (unit : TimeUnit) (n : Int) : Run (Option Timestamp) :=
  match unit with
  | .micros => do return Timestamp.ofNanos? (← wide (n * 1000))
  | .millis => do return Timestamp.ofNanos? (← wide (n * 1000000))
  | .seconds => return Timestamp.ofSeconds? n

def totalNanos (seconds : Int) (nanos : Nat) : Run Int := do wide ((← wide (seconds * 1000000000)) + nanos)

/-- Moves an instant. A product or a sum that is out of range here is none, and no reason to stop. -/
def addMicros (t : Timestamp) (micros : Int) : Run (Option Timestamp) := do
  match (wide (micros * 1000)).toOption with
  | none => return none
  | some delta => return (wide ((← totalNanos t.seconds t.nanos) + delta)).toOption.bind Timestamp.ofNanos?

/-- So many units of some microseconds, forwards or backwards. -/
def span (sign amount micros : Int) : Run Int := do wide (sign * (← wide (amount * micros)))

def moved (t : Timestamp) (sign amount micros : Int) : Run (Option Timestamp) := do
  addMicros t (← span sign amount micros)

variable (unit : TimeUnit) (t : Timestamp)

theorem unixNumber_eq : unixNumber unit t.seconds t.nanos =
    .ok (match unit with
      | .micros => t.unixMicros
      | .millis => t.unixMillis
      | .seconds => t.unixSeconds) := by
  have first := t.first_le
  have last := t.le_last
  have nanos := t.nanos_lt
  cases unit with
  | micros =>
    rw [unixNumber, signed_eq (by omega) (by omega)]
    exact signed_eq (by omega) (by omega)
  | millis =>
    rw [unixNumber, signed_eq (by omega) (by omega)]
    exact signed_eq (by omega) (by omega)
  | seconds => rfl

theorem ofUnixNumber_eq (n : Int64) : ofUnixNumber unit n.toInt =
    .ok (match unit with
      | .micros => Timestamp.ofMicros? n.toInt
      | .millis => Timestamp.ofMillis? n.toInt
      | .seconds => Timestamp.ofSeconds? n.toInt) := by
  have low := n.le_toInt
  have high := n.toInt_lt
  cases unit with
  | micros | millis =>
    rw [ofUnixNumber, wide_eq (by omega) (by omega)]
    rfl
  | seconds => rfl

theorem totalNanos_eq : totalNanos t.seconds t.nanos = .ok t.totalNanos := by
  have first := t.first_le
  have last := t.le_last
  have nanos := t.nanos_lt
  rw [totalNanos, wide_eq (by omega) (by omega)]
  exact wide_eq (by omega) (by omega)

theorem addMicros_eq {micros : Int} (low : -0x8000000000000000000000000000 ≤ micros)
    (high : micros < 0x8000000000000000000000000000) : addMicros t micros = .ok (t.addMicros? micros) := by
  have first := t.first_le
  have last := t.le_last
  have nanos := t.nanos_lt
  have total : wide (t.totalNanos + micros * 1000) = .ok (t.totalNanos + micros * 1000) := by
    rw [Timestamp.totalNanos, Timestamp.nanosPerSecond]
    exact wide_eq (by omega) (by omega)
  rw [addMicros, wide_eq (by omega) (by omega), totalNanos_eq]
  simp only [Except.toOption, bind, Except.bind, total, Option.bind]
  rfl

/-- The longest unit is a day, so every amount of a unit is far within two words. -/
theorem span_bounds {name : String} {micros : Int} (known : TimeFunction.unitMicros? name = some micros)
    (amount : Int64) : -0x4000000000000000000000000000 ≤ amount.toInt * micros ∧
      amount.toInt * micros ≤ 0x4000000000000000000000000000 := by
  have low := amount.le_toInt
  have high := amount.toInt_lt
  unfold TimeFunction.unitMicros? at known
  split at known <;> cases known <;> omega

theorem moved_eq {name : String} {micros sign : Int} (known : TimeFunction.unitMicros? name = some micros)
    (direction : sign = 1 ∨ sign = -1) (amount : Int64) :
    moved t sign amount.toInt micros = .ok (t.addMicros? (sign * (amount.toInt * micros))) := by
  obtain ⟨low, high⟩ := span_bounds known amount
  have spanned : span sign amount.toInt micros = .ok (sign * (amount.toInt * micros)) := by
    rw [span, wide_eq (by omega) (by omega)]
    rcases direction with rfl | rfl <;> exact wide_eq (by omega) (by omega)
  rw [moved, spanned]
  rcases direction with rfl | rfl <;> exact addMicros_eq t (by omega) (by omega)

end Instants

section Arrays

/-- Where an index leads; a negative one counts from the end. -/
def position (length index : Int) : Run Int := if index < 0 then signed (length + index) else return index

def itemAt (values : Vec Value) (index : Int) : Run (Option Value) := do
  let length : Int := values.items.length
  let position ← position length index
  if 0 ≤ position ∧ position < length then return some (← item values.items (asSize position)) else return none

theorem itemAt_eq (values : Vec Value) (index : Int64) :
    itemAt values index.toInt = .ok (CollectionFunction.itemAt? values.items index.toInt) := by
  have fits := values.fits
  have low := index.le_toInt
  have high := index.toInt_lt
  generalize index.toInt = index at low high ⊢
  rw [CollectionFunction.itemAt?]
  generalize settled : (if index < 0 then (values.items.length : Int) + index else index) = place
  have read : position values.items.length index = .ok place := by
    rw [position]
    split at settled
    next negative => rw [if_pos negative, signed_eq (by omega) (by omega), settled]
    next positive => rw [if_neg positive, settled]; rfl
  have step : itemAt values index = if 0 ≤ place ∧ place < values.items.length then
      (do return some (← item values.items (asSize place))) else return none := by
    rw [itemAt, read]
    rfl
  rw [step]
  by_cases inside : 0 ≤ place ∧ place < values.items.length
  · have within : place.toNat < values.items.length := by omega
    rw [if_pos inside, if_pos inside.1, asSize_eq inside.1 (by omega), item_eq within,
      List.getElem?_eq_getElem within]
    rfl
  · rw [if_neg inside]
    split
    next low => rw [List.getElem?_eq_none (by omega)]; rfl
    next => rfl

end Arrays

end Machine
end DocQuery
