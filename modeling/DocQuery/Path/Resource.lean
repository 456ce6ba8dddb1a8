import DocQuery.Text.Split

/-! Resource paths, whose segments name collections and documents in turn, and document keys, the
paths that end in a document. -/
namespace DocQuery

structure ResourcePath where
  segments : List String
  deriving DecidableEq, Inhabited

namespace ResourcePath

/-- Reads segments between slashes; empty segments are dropped. -/
def parse (text : String) : ResourcePath :=
  ⟨((splitAt '/' text.toList).filter (!·.isEmpty)).map String.ofList⟩

def text (path : ResourcePath) : String := "/".intercalate path.segments

instance : ToString ResourcePath := ⟨text⟩

def length (path : ResourcePath) : Nat := path.segments.length
def isEmpty (path : ResourcePath) : Bool := path.segments.isEmpty
def last? (path : ResourcePath) : Option String := path.segments.getLast?

/-- The path without its last segment; the empty path is its own parent. -/
def parent (path : ResourcePath) : ResourcePath := ⟨path.segments.dropLast⟩

/-- Segment by segment, a path before those that go on from it. -/
def order (a b : ResourcePath) : Ordering := a.segments.compareLex compare b.segments

end ResourcePath

/-- A path with an even number of segments, at least two. -/
structure DocumentKey where
  path : ResourcePath
  ends_in_document : path.length % 2 = 0 ∧ path.length ≠ 0
  deriving DecidableEq

namespace DocumentKey

def ofPath? (path : ResourcePath) : Option DocumentKey :=
  if h : path.length % 2 = 0 ∧ path.length ≠ 0 then some ⟨path, h⟩ else none

def parse? (text : String) : Option DocumentKey := ofPath? (.parse text)

def text (key : DocumentKey) : String := key.path.text

instance : ToString DocumentKey := ⟨text⟩

def collectionPath (key : DocumentKey) : ResourcePath := key.path.parent

/-- The name of the collection that holds the document. -/
def collectionId (key : DocumentKey) : String :=
  key.path.segments.get ⟨key.path.length - 2, by
    have := key.ends_in_document; simp only [ResourcePath.length] at *; omega⟩

def documentId (key : DocumentKey) : String :=
  key.path.segments.get ⟨key.path.length - 1, by
    have := key.ends_in_document; simp only [ResourcePath.length] at *; omega⟩

def order (a b : DocumentKey) : Ordering := a.path.order b.path

end DocumentKey
end DocQuery
