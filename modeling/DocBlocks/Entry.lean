import DocBlocks.Choice.Section
import DocBlocks.Failure
import DocBlocks.Yaml.Value.Encode

/-!
# Entries

An entry is one top-level key of a document with its value and its docblock:
the comment lines found directly above the key. An entry whose key was never
located in the text has no docblock at all, which differs from an empty one.

The choice section of an entry is derived from its docblock whenever the
docblock is set, so the two always agree; a directive that cannot be read is
kept as the entry's choice error.

An entry is written as its docblock lines, then the YAML of the mapping of
its one key.
-/

namespace DocBlocks

open DocBlocks.Yaml DocBlocks.Choice

/-- How a key is shown in messages: null as `~`, booleans, numbers and strings
as their text, anything else as its YAML less trailing blanks (or its kind if
it cannot be written). -/
def Yaml.Value.keyText : Value → String
  | .null => "~"
  | .bool b => toString b
  | .number n => n.text
  | .string s => s
  | v =>
    match v.encode with
    | .ok text => Text.trimEnd text
    | .error _ => v.kind

/-- A top-level key with its value and docblock. -/
structure Entry where
  /-- the key -/
  key : Value
  /-- the value -/
  value : Value
  /-- the docblock, none if the key was not located -/
  docblock : Option (List String) := none
  /-- the choice section derived from the docblock -/
  choices : Except ChoiceError (Option Section) := .ok none
  deriving Inhabited

namespace Entry

/-- Decides whether two choice sections, or the errors in their place, are the
same. -/
def decEqChoices : (a b : Except ChoiceError (Option Section)) → Decidable (a = b)
  | .ok x, .ok y => if h : x = y then isTrue (h ▸ rfl) else isFalse fun e => h (Except.ok.inj e)
  | .error x, .error y =>
    if h : x = y then isTrue (h ▸ rfl) else isFalse fun e => h (Except.error.inj e)
  | .ok _, .error _ => isFalse nofun
  | .error _, .ok _ => isFalse nofun

instance : DecidableEq Entry := fun a b =>
  match a, b with
  | ⟨k, v, d, c⟩, ⟨k', v', d', c'⟩ =>
    if hk : k = k' then
      if hv : v = v' then
        if hd : d = d' then
          match decEqChoices c c' with
          | isTrue hc => isTrue (hk ▸ hv ▸ hd ▸ hc ▸ rfl)
          | isFalse hc => isFalse fun e => hc (Entry.mk.inj e).2.2.2
        else isFalse fun e => hd (Entry.mk.inj e).2.2.1
      else isFalse fun e => hv (Entry.mk.inj e).2.1
    else isFalse fun e => hk (Entry.mk.inj e).1

/-- An entry without a docblock. -/
def new (key value : Value) : Entry := { key, value }

/-- How the key is shown in messages. -/
def keyText (e : Entry) : String := e.key.keyText

/-- The entry with a new docblock, and the choice section derived from it. -/
def withDocblock (e : Entry) (docblock : Option (List String)) : Entry :=
  { e with docblock, choices := Section.ofDocblock? docblock }

/-- The entry with a new value. -/
def withValue (e : Entry) (value : Value) : Entry := { e with value }

/-- The choice section, if the docblock has a readable directive. -/
def section? (e : Entry) : Option Section :=
  match e.choices with
  | .ok s => s
  | .error _ => none

/-- Why the docblock's directive could not be read. -/
def choiceError? (e : Entry) : Option ChoiceError :=
  match e.choices with
  | .ok _ => none
  | .error err => some err

/-- An entry built from optional parts: the key is required and may not be
null; a missing value is null. -/
def build (key : Option Value) (value : Option Value) (docblock : Option (List String)) :
    Except Failure Entry :=
  match key with
  | none | some .null => .error .missingKey
  | some k => .ok ((Entry.new k (value.getD .null)).withDocblock docblock)

/-- The entry as text: its docblock lines, each ended by a line feed, then the
YAML of the mapping of its key to its value. -/
def render (e : Entry) : Except Failure String :=
  match (Value.mapping [(e.key, e.value)]).encode with
  | .error err => .error (.yaml err)
  | .ok yaml => .ok (String.join ((e.docblock.getD []).map (· ++ "\n")) ++ yaml)

end Entry

end DocBlocks
