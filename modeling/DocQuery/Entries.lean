/-! Maps from names as lists of pairs in the order of first insertion. -/
namespace DocQuery.Entries

def find? (key : String) : List (String × α) → Option α
  | [] => none
  | (k, v) :: rest => if k = key then some v else find? key rest

/-- Writes a value: in place if the key is there, at the end if it is not. -/
def insert (key : String) (value : α) : List (String × α) → List (String × α)
  | [] => [(key, value)]
  | (k, v) :: rest =>
    if k = key then (k, value) :: rest else (k, v) :: insert key value rest

def erase (key : String) (entries : List (String × α)) : List (String × α) :=
  entries.filter fun entry => entry.1 ≠ key

/-- Writes pairs one after another. -/
def extend (entries pairs : List (String × α)) : List (String × α) :=
  pairs.foldl (fun entries pair => insert pair.1 pair.2 entries) entries

def ofPairs (pairs : List (String × α)) : List (String × α) := extend [] pairs

def sortByKey (entries : List (String × α)) : List (String × α) :=
  entries.mergeSort fun a b => a.1 ≤ b.1

def keys (entries : List (String × α)) : List String := entries.map (·.1)

end DocQuery.Entries
