import DocQuery.Document
import DocQuery.Expr.Basic
import DocQuery.Pipeline.Error

/-! The stages of a pipeline: sources, which choose documents, and steps, which turn rows into rows. -/
namespace DocQuery

/-- An expression and the path that its value is written to. -/
structure Assignment where
  path : FieldPath
  expr : Expr

/-- A field under its own path. -/
def Assignment.ofField (path : FieldPath) : Assignment := ⟨path, .field path⟩

inductive Direction where
  | ascending
  | descending
  deriving DecidableEq

def Direction.name : Direction → String
  | .ascending => "asc"
  | .descending => "desc"

structure SortKey where
  expr : Expr
  direction : Direction

/-- A total of a group, and the path that it is written to. Only the first argument is used. -/
structure Accumulator where
  path : FieldPath
  kind : Aggregation
  args : List Expr

inductive DistanceMeasure where
  | cosine
  | euclidean
  | dotProduct
  deriving DecidableEq

namespace DistanceMeasure

def all : List DistanceMeasure := [cosine, euclidean, dotProduct]

def name : DistanceMeasure → String
  | cosine => "cosine"
  | euclidean => "euclidean"
  | dotProduct => "dot_product"

def ofName? (name : String) : Option DistanceMeasure := all.find? (·.name = name)

/-- Whether the nearest vectors have the greatest measure. -/
def descending (m : DistanceMeasure) : Bool := m = dotProduct

end DistanceMeasure

/-- A search for the vectors nearest to a target. -/
structure NearestQuery where
  field : Expr
  target : List Double
  measure : DistanceMeasure
  limit : Option Nat
  distanceField : Option FieldPath

inductive Source where
  | collection (path : ResourcePath)
  | collectionGroup (id : String)
  | database
  | documents (keys : List DocumentKey)
  deriving DecidableEq

inductive Step where
  | filter (condition : Condition)
  | sort (keys : List SortKey)
  | limit (n : Nat)
  | offset (n : Nat)
  | addFields (fields : List Assignment)
  | select (fields : List Assignment)
  | distinct (groups : List Assignment)
  | aggregate (groups : List Assignment) (accumulators : List Accumulator)
  | findNearest (query : NearestQuery)

inductive Stage where
  | source (s : Source)
  | step (s : Step)

def NearestQuery.fault? (query : NearestQuery) : Option PipelineFault :=
  if query.target.isEmpty then some .emptyTarget
  else if query.limit = some 0 then some .zeroNeighbours
  else none

/-- The first key that repeats one before it. -/
def firstRepeated? (seen : List DocumentKey) : List DocumentKey → Option DocumentKey
  | [] => none
  | key :: keys => if key ∈ seen then some key else firstRepeated? (key :: seen) keys

namespace Source

def name : Source → String
  | collection _ => "collection"
  | collectionGroup _ => "collection_group"
  | database => "database"
  | documents _ => "documents"

def fault? : Source → Option PipelineFault
  | documents [] => some .noDocuments
  | documents keys => (firstRepeated? [] keys).map .duplicateDocument
  | _ => none

def chooses (key : DocumentKey) : Source → Bool
  | collection path => key.collectionPath == path
  | collectionGroup id => key.collectionId == id
  | database => true
  | documents keys => keys.contains key

/-- Reads the paths of documents; the first that is none is refused. -/
def readKeys : List String → Except PipelineFault (List DocumentKey)
  | [] => .ok []
  | path :: paths =>
    match DocumentKey.parse? path with
    | some key => do return key :: (← readKeys paths)
    | none => .error (.notDocumentPath path)

/-- A source that has no fault. -/
def checked (s : Source) : Except PipelineFault Source :=
  match s.fault? with
  | some fault => .error fault
  | none => .ok s

def ofPaths (paths : List String) : Except PipelineFault Source := do
  checked (.documents (← readKeys paths))

end Source

namespace Step

def name : Step → String
  | filter _ => "where"
  | sort _ => "sort"
  | limit _ => "limit"
  | offset _ => "offset"
  | addFields _ => "add_fields"
  | select _ => "select"
  | distinct _ => "distinct"
  | aggregate _ _ => "aggregate"
  | findNearest _ => "find_nearest"

def fault? : Step → Option PipelineFault
  | findNearest query => query.fault?
  | _ => none

/-- A filter by an expression, which must be written as a condition. -/
def ofExpr : Expr → Except PipelineFault Step
  | .condition f args h => .ok (.filter ⟨f, args, h⟩)
  | .call f _ => .error (.notBoolean f.name)
  | e => .error (.notBoolean e.describe)

def nearest (query : NearestQuery) : Except PipelineFault Step :=
  match query.fault? with
  | some fault => .error fault
  | none => .ok (.findNearest query)

end Step

/-- A call as a condition, which only functions that yield booleans can be. -/
def Condition.ofCall (f : Builtin) (args : List Expr) : Except PipelineFault Condition :=
  if h : f.isPredicate = true then .ok ⟨f, args, h⟩ else .error (.notBoolean f.name)

namespace Stage

def name : Stage → String
  | source s => s.name
  | step s => s.name

def isSource : Stage → Bool
  | source _ => true
  | step _ => false

def fault? : Stage → Option PipelineFault
  | source s => s.fault?
  | step s => s.fault?

/-- Whether the stage is a source that chooses the document. -/
def chooses (doc : Document) : Stage → Bool
  | source s => s.chooses doc.key
  | step _ => false

end Stage
end DocQuery
