import DocBlocks.Document
import DocBlocks.Source.Documents
import DocBlocks.Source.KeyLine

/-!
# Reading a template text

Each document text of a template is read in two passes. First its YAML is
read; the root must be a mapping, whose keys become the document's entries in
order. Then the lines are searched for the line declaring each key (see
`findKeyLine`), and the comment block above that line becomes the entry's
docblock. A key that is not found keeps no docblock.

Documents without content are skipped, but they still count when documents
are numbered in messages.
-/

namespace DocBlocks

open DocBlocks.Yaml DocBlocks.Source DocBlocks.Text

/-- Entries for the keys and values of a root mapping, locating each key from
line `cursor` on. -/
def locateEntries (lines : List String) : List (Value × Value) → Nat → List Entry
  | [], _ => []
  | (k, v) :: rest, cursor =>
    let e := Entry.new k v
    match findKeyLine lines k cursor with
    | some line => e.withDocblock (some (blockAbove lines line)) :: locateEntries lines rest (line + 1)
    | none => e :: locateEntries lines rest cursor

/-- The document of a document text, the `number`th of its template. -/
def Document.parse (text : String) (number : Nat) : Except Failure Document :=
  match Value.decode text with
  | .error e => .error (.yaml e)
  | .ok (.mapping entries) => .ok ⟨locateEntries (lines text) entries 0⟩
  | .ok other => .error (.nonMappingRoot number other.kind)

/-- The documents of document texts with content, numbering from `number`. -/
def parseTexts : List String → Nat → Except Failure (List Document)
  | [], _ => .ok []
  | text :: rest, number =>
    if isBlankDocument text then parseTexts rest (number + 1)
    else do
      let d ← Document.parse text number
      let ds ← parseTexts rest (number + 1)
      return d :: ds

/-- The documents of a template text. -/
def Document.parseAll (text : String) : Except Failure (List Document) :=
  parseTexts (splitDocuments text) 1

end DocBlocks
