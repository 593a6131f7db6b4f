/-!
# Lines of a text

A text is cut into lines at each line feed. A line that ended in a line feed
also loses one carriage return before it, and a final line feed closes the
last line without opening an empty one, so the empty text has no lines.
-/

namespace DocBlocks.Text

/-- The pieces of `cs` between line feeds; there is always at least one. -/
def splitLineFeeds : List Char → List (List Char)
  | [] => [[]]
  | '\n' :: rest => [] :: splitLineFeeds rest
  | c :: rest =>
    match splitLineFeeds rest with
    | [] => [[c]]
    | l :: ls => (c :: l) :: ls

/-- A line that was ended by a line feed without one carriage return at its end. -/
def dropCarriageReturn (cs : List Char) : List Char :=
  match cs.getLast? with
  | some '\r' => cs.dropLast
  | _ => cs

/-- Lines of pieces: every piece but the last was ended by a line feed, and an
empty last piece is no line. -/
def linesOfPieces : List (List Char) → List String
  | [] => []
  | [last] => if last.isEmpty then [] else [String.ofList last]
  | p :: ps => String.ofList (dropCarriageReturn p) :: linesOfPieces ps

/-- The lines of a text. -/
def lines (s : String) : List String :=
  linesOfPieces (splitLineFeeds s.toList)

/-- Lines joined back with line feeds between them. -/
def joinLines (ls : List String) : String :=
  "\n".intercalate ls

end DocBlocks.Text
