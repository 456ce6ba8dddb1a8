import DocQuery.Pattern.Basic

/-! Compiled patterns, kept while there is room. Failures are kept too, so a bad pattern is fresh
only when it is asked for the first time since it was evicted. -/
namespace DocQuery

structure PatternRequest where
  kind : PatternKind
  text : String
  deriving DecidableEq

structure CacheEntry where
  request : PatternRequest
  result : Except String Pattern

structure PatternCache where
  rules : RegexRules
  entries : List CacheEntry

namespace PatternCache

def capacity : Nat := 1024

/-- How many entries go when the cache is full. -/
def evicted : Nat := 512

def empty (rules : RegexRules) : PatternCache := ⟨rules, []⟩

def size (cache : PatternCache) : Nat := cache.entries.length

def find? (cache : PatternCache) (request : PatternRequest) : Option CacheEntry :=
  cache.entries.find? fun entry => entry.request = request

/-- A choice of the entries that stay, for a full cache. -/
abbrev Retention := List CacheEntry → List CacheEntry

/-- A choice for each time that a pattern is asked for. -/
abbrev Choices := Nat → Retention

instance : Coe Retention Choices := ⟨fun keep _ => keep⟩

def keepNewest : Retention := fun entries => entries.take (entries.length - evicted)

structure Answer where
  result : Except String Pattern
  fresh : Bool
  cache : PatternCache

def get (keep : Retention) (cache : PatternCache) (request : PatternRequest) : Answer :=
  match cache.find? request with
  | some entry => ⟨entry.result, false, cache⟩
  | none =>
    let result := Pattern.compile cache.rules request.kind request.text
    let kept := if capacity ≤ cache.size then keep cache.entries else cache.entries
    ⟨result, true, { cache with entries := ⟨request, result⟩ :: kept }⟩

end PatternCache
end DocQuery
