/-!
# Positions and errors of the YAML reader and writer

A mark is a position in a text: the number of bytes of its UTF-8 encoding
before it, and its line and column counted from zero; a column counts
characters. Messages show marks counted from one, and
leave out a mark at the very start of the text.

`Error` lists every way reading or writing YAML fails, and `Error.message` is
the one place that words them.
-/

namespace DocBlocks.Yaml

/-- A position in a text, counted from zero. -/
structure Mark where
  /-- bytes of the UTF-8 encoding before the position -/
  index : Nat := 0
  /-- line of the position -/
  line : Nat := 0
  /-- column of the position -/
  column : Nat := 0
  deriving Inhabited, Repr, DecidableEq

namespace Mark

/-- Whether the mark is the start of the text, which messages do not show. -/
def atStart (m : Mark) : Bool := m.line == 0 && m.column == 0

/-- The mark as messages show it. -/
def text (m : Mark) : String :=
  "line " ++ toString (m.line + 1) ++ " column " ++ toString (m.column + 1)

/-- The mark after a message, when it is not the start of the text. -/
def suffix (m : Mark) : String :=
  if m.atStart then "" else " at " ++ m.text

end Mark

/-- Where in a document a value lies: the keys and indices leading to it. -/
inductive Path where
  | root
  | item (parent : Path) (index : Nat)
  | entry (parent : Path) (key : String)
  | alias (parent : Path)
  | unknown (parent : Path)
  deriving Inhabited, Repr, DecidableEq

namespace Path

mutual

/-- The path as messages show it: `.` for the document itself, keys joined by
dots, indices in brackets. -/
def text : Path → String
  | .root => "."
  | .item p i => text p ++ "[" ++ toString i ++ "]"
  | .entry p k => parentText p ++ k
  | .alias p => text p
  | .unknown p => parentText p ++ "?"

/-- The text of a parent path followed by a dot, or nothing for the root. -/
def parentText : Path → String
  | .root => ""
  | p => text p ++ "."

end

end Path

/-- An error of reading or writing YAML. -/
inductive Error where
  /-- a fault in the text: what was wrong and where, and optionally what was
  being read and where that started; `offset` is the byte offset of a
  character that is not allowed at all -/
  | malformed (problem : String) (problemMark : Mark) (context : Option (String × Mark))
      (offset : Nat)
  /-- a value that cannot be built, with where it lies once that is known -/
  | invalid (text : String) (place : Option (Mark × Path))
  | unknownAnchor (mark : Mark)
  | moreThanOneDocument
  | recursionLimit (mark : Mark)
  | repetitionLimit
  | endOfStream
  /-- events that a YAML text cannot be written from -/
  | emitter (problem : String)
  | nestedTag
  deriving Inhabited, Repr, DecidableEq

namespace Error

/-- A fault in the text, found while reading `context` from `contextMark`. -/
def scanner (context : String) (contextMark : Mark) (problem : String) (mark : Mark) : Error :=
  malformed problem mark (some (context, contextMark)) 0

/-- The message of an error. -/
def message : Error → String
  | malformed problem mark context offset =>
    let head := if !mark.atStart then problem ++ " at " ++ mark.text
      else if offset != 0 then problem ++ " at position " ++ toString offset
      else problem
    match context with
    | none => head
    | some (ctx, ctxMark) =>
      let shown := !ctxMark.atStart && (ctxMark.line != mark.line || ctxMark.column != mark.column)
      head ++ ", " ++ ctx ++ (if shown then " at " ++ ctxMark.text else "")
  | invalid text none => text
  | invalid text (some (mark, path)) =>
    let shownPath := path.text
    (if shownPath == "." then "" else shownPath ++ ": ") ++ text ++ mark.suffix
  | unknownAnchor mark => "unknown anchor" ++ mark.suffix
  | moreThanOneDocument => "deserializing from YAML containing more than one document is not supported"
  | recursionLimit mark => "recursion limit exceeded" ++ mark.suffix
  | repetitionLimit => "repetition limit exceeded"
  | endOfStream => "EOF while parsing a value"
  | emitter problem => problem
  | nestedTag => "serializing nested enums in YAML is not supported yet"

/-- Where reading stopped, for the errors that know it. -/
def mark? : Error → Option Mark
  | malformed _ mark _ _ => some mark
  | invalid _ (some (mark, _)) => some mark
  | unknownAnchor mark => some mark
  | recursionLimit mark => some mark
  | _ => none

/-- Gives a value error its place, unless it has one already. -/
def placeAt (mark : Mark) (path : Path) : Error → Error
  | invalid text none => invalid text (some (mark, path))
  | e => e

end Error

end DocBlocks.Yaml
