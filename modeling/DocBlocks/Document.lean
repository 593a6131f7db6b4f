import DocBlocks.Entry

/-!
# Documents

A document is the list of its entries, in the order their keys appear. It is
written as a `---` line followed by its entries, a blank line between two of
them; several documents are written one after the other with a line feed
between them.
-/

namespace DocBlocks

open DocBlocks.Yaml

/-- A document: its entries, in order. -/
structure Document where
  /-- the entries, in order -/
  entries : List Entry := []
  deriving Inhabited, DecidableEq

namespace Document

/-- The number of entries. -/
def size (d : Document) : Nat := d.entries.length

/-- The document with one more entry at the end. -/
def push (d : Document) (e : Entry) : Document := ⟨d.entries ++ [e]⟩

/-- The first entry whose key equals `key`. -/
def get? (d : Document) (key : Value) : Option Entry :=
  d.entries.find? fun e => e.key.same key

/-- The texts of all entries, or the first failure. -/
def renderEntries : List Entry → Except Failure (List String)
  | [] => .ok []
  | e :: rest => do
    let t ← e.render
    let ts ← renderEntries rest
    return t :: ts

/-- The document as text. -/
def render (d : Document) : Except Failure String := do
  let parts ← renderEntries d.entries
  return "---\n" ++ "\n".intercalate parts

/-- The texts of all documents, or the first failure. -/
def renderEach : List Document → Except Failure (List String)
  | [] => .ok []
  | d :: rest => do
    let t ← d.render
    let ts ← renderEach rest
    return t :: ts

/-- Documents as one text. -/
def renderAll (ds : List Document) : Except Failure String := do
  let parts ← renderEach ds
  return "\n".intercalate parts

/-- Pushing adds one entry. -/
@[simp] theorem size_push (d : Document) (e : Entry) : (d.push e).size = d.size + 1 := by
  simp [push, size]

end Document

end DocBlocks
