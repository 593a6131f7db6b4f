import DocBlocks.Text.Comment
import DocBlocks.Text.Lines

/-!
# Documents of a template text

A template text holds one or more YAML documents. A line starting with `---`
opens a new document, and one starting with `...` closes the current one. The
text is cut into document texts accordingly:

* a `---` line first closes the document being collected, if it has content
  (a line that is neither blank nor `---` alone), and then starts the next one;
* a `...` line belongs to the document it closes;
* whatever is collected at the end is one more document, even if it is empty.

A document whose lines are all blank, markers or comments has no content and
holds no keys.
-/

namespace DocBlocks.Source

open DocBlocks.Text

/-- Whether a line opens a document. -/
def isDocumentStart (line : String) : Bool := line.startsWith "---"

/-- Whether a line closes a document. -/
def isDocumentEnd (line : String) : Bool := line.startsWith "..."

/-- Whether collected lines hold something besides blanks and `---`. -/
def hasContent (lines : List String) : Bool :=
  lines.any fun line => let t := trim line; !t.isEmpty && t != "---"

/-- Cuts lines into documents, given the lines collected so far (last first)
and the documents so far (last first). -/
def splitLines : List String → List String → List String → List String
  | [], current, docs => (joinLines current.reverse :: docs).reverse
  | line :: rest, current, docs =>
    if isDocumentStart line then
      let docs := if hasContent current then joinLines current.reverse :: docs else docs
      splitLines rest [line] docs
    else if isDocumentEnd line then
      splitLines rest [] (joinLines (line :: current).reverse :: docs)
    else splitLines rest (line :: current) docs

/-- The document texts of a template text, in order. -/
def splitDocuments (text : String) : List String :=
  splitLines (lines text) [] []

/-- Whether a document text has no content: every line is blank, `---`, `...`
or a comment once trimmed. -/
def isBlankDocument (text : String) : Bool :=
  (lines text).all fun line =>
    let t := trim line
    t.isEmpty || t == "---" || t == "..." || isComment t

/-- Splitting always gives at least one document. -/
theorem splitDocuments_ne_nil (text : String) : splitDocuments text ≠ [] := by
  suffices h : ∀ ls current docs, splitLines ls current docs ≠ [] from h _ _ _
  intro ls
  induction ls with
  | nil => intro current docs; simp [splitLines]
  | cons line rest ih =>
    intro current docs
    simp only [splitLines]
    split
    · exact ih _ _
    · split
      · exact ih _ _
      · exact ih _ _

end DocBlocks.Source
