/-! Instants with nanoseconds, from the first second of year 1 to the last of year 9999. Whatever
leaves that range is refused. -/
namespace DocQuery

structure Timestamp where
  seconds : Int
  nanos : Nat
  first_le : -62135596800 ≤ seconds
  le_last : seconds ≤ 253402300799
  nanos_lt : nanos < 1000000000
  deriving DecidableEq

namespace Timestamp

def nanosPerSecond : Int := 1000000000

def make? (seconds nanos : Int) : Option Timestamp :=
  if h : -62135596800 ≤ seconds ∧ seconds ≤ 253402300799 ∧ 0 ≤ nanos ∧ nanos < 1000000000 then
    some ⟨seconds, nanos.toNat, h.1, h.2.1, by omega⟩
  else none

/-- Nanoseconds since the epoch. -/
def totalNanos (t : Timestamp) : Int := t.seconds * nanosPerSecond + t.nanos

def ofNanos? (total : Int) : Option Timestamp :=
  make? (total / nanosPerSecond) (total % nanosPerSecond)

def ofSeconds? (n : Int) : Option Timestamp := make? n 0
def ofMillis? (n : Int) : Option Timestamp := ofNanos? (n * 1000000)
def ofMicros? (n : Int) : Option Timestamp := ofNanos? (n * 1000)

def unixSeconds (t : Timestamp) : Int := t.seconds
def unixMillis (t : Timestamp) : Int := t.seconds * 1000 + t.nanos / 1000000
def unixMicros (t : Timestamp) : Int := t.seconds * 1000000 + t.nanos / 1000

def addMicros? (t : Timestamp) (micros : Int) : Option Timestamp :=
  ofNanos? (t.totalNanos + micros * 1000)

def order (a b : Timestamp) : Ordering :=
  (compare a.seconds b.seconds).then (compare a.nanos b.nanos)

end Timestamp
end DocQuery
