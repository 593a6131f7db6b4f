import DocBlocks.Text.Blank
import DocBlocks.Text.Word

/-!
# The `Choose` directive

A docblock line holds a `Choose` directive where the word `Choose` starts a
word (nothing that belongs to a word stands right before it) and is followed
by optional blanks, optionally a cardinality in parentheses made of decimal
digits and dots, optional blanks, and a colon; the rest of the line after the
colon is the directive's remainder, which must not hold a line feed. Digits,
blanks and word characters are those of Unicode. The first place on the line
where such a directive starts is the one taken.
-/

namespace DocBlocks.Choice

open DocBlocks.Text

/-- A directive line split into its parts. -/
structure Directive where
  /-- the text between the parentheses -/
  cardinality : Option String
  /-- the text after the colon, trimmed -/
  remainder : String
  deriving Inhabited, Repr, DecidableEq

/-- The remainder after the colon, if it holds no line feed. -/
def remainderOf (rest : List Char) : Option String :=
  if rest.contains '\n' then none else some (trim (String.ofList rest))

/-- A directive whose keyword has just been read, `rest` being what follows
it. -/
def afterKeyword (rest : List Char) : Option Directive :=
  let r := rest.dropWhile isBlank
  let withCount : Option Directive :=
    match r with
    | '(' :: inner =>
      let count := inner.takeWhile fun c => isDecimalDigit c || c == '.'
      match count, inner.dropWhile fun c => isDecimalDigit c || c == '.' with
      | _ :: _, ')' :: after =>
        match after.dropWhile isBlank with
        | ':' :: tail => (remainderOf tail).map fun rem => ⟨some (String.ofList count), rem⟩
        | _ => none
      | _, _ => none
    | _ => none
  match withCount with
  | some d => some d
  | none =>
    match r with
    | ':' :: tail => (remainderOf tail).map fun rem => ⟨none, rem⟩
    | _ => none

/-- The keyword of the directive. -/
def keyword : List Char := "Choose".toList

/-- The first directive of `cs`, the character before it being `prev`. -/
def findDirective (prev : Option Char) : List Char → Option Directive
  | [] => none
  | c :: rest =>
    let boundary := !(prev.map isWordChar).getD false
    let here : Option Directive :=
      if boundary && keyword.isPrefixOf (c :: rest) then
        afterKeyword ((c :: rest).drop keyword.length)
      else none
    match here with
    | some d => some d
    | none => findDirective (some c) rest

/-- The directive a docblock line holds, if any. -/
def Directive.ofLine (line : String) : Option Directive :=
  findDirective none line.toList

end DocBlocks.Choice
