/-!
# Commands and their arguments

A command is described by its name, what it is about, and its arguments: flags
(`--strict`), options that take a value (`--format json`), and positional
arguments (`FILE`). From the description come the command's help text and its
usage lines.

The help text has two forms. The short one (`-h`) gives each argument on one
line, its help aligned after the widest argument of its section. The long one
(`--help`) gives each argument's help on the lines below it, indented, with the
longer help where there is one, the meaning of each possible value, and the
default value; arguments are then separated by blank lines.

The usage line of the help lists `[OPTIONS]` and the positional arguments; the
usage shown with an error lists instead the named arguments that were given and
those that are required, followed by all the positional arguments.
-/

namespace DocBlocks.Command

/-- What an argument does when it is given. -/
inductive Action where
  /-- turns a switch on; giving it twice is an error -/
  | flag
  /-- takes one value; giving it twice is an error -/
  | single
  /-- takes one value each time it is given, collecting them -/
  | many
  /-- shows the help -/
  | help
  /-- shows the version -/
  | version
  deriving Inhabited, Repr, DecidableEq

/-- How the values of an argument are read. -/
inductive ValueKind where
  /-- a path: any text but the empty one -/
  | path
  /-- any text -/
  | text
  /-- one of the given names, each with what it means -/
  | oneOf (choices : List (String × String))
  deriving Inhabited, Repr

/-- An argument of a command. -/
structure Arg where
  /-- the name the program knows it by -/
  id : String
  /-- the one-letter form, `-v` -/
  short : Option Char := none
  /-- the long form, `--verbose` -/
  long : Option String := none
  /-- whether it is given by its position rather than by name -/
  positional : Bool := false
  /-- what giving it does -/
  action : Action := .flag
  /-- how its values are read -/
  kind : ValueKind := .text
  /-- the name of its value in help and usage -/
  valueName : String := ""
  /-- whether it must be given -/
  required : Bool := false
  /-- whether it may take no value at all, for positional arguments -/
  mayBeEmpty : Bool := false
  /-- what it is for, in one line -/
  help : String
  /-- what it is for, at length -/
  longHelp : Option String := none
  /-- the value it has when not given -/
  defaultValue : Option String := none
  /-- the arguments it cannot be given with -/
  conflicts : List String := []
  deriving Inhabited, Repr

namespace Arg

/-- Whether the argument takes values. -/
def takesValue (a : Arg) : Bool := a.action == .single || a.action == .many

/-- The possible values with what they mean. -/
def choices (a : Arg) : List (String × String) :=
  match a.kind with
  | .oneOf cs => cs
  | _ => []

/-- The placeholder of the argument's value: `<NAME>`, or `[NAME]` for a
positional argument that may be left out, followed by `...` when it collects
values. -/
def placeholder (a : Arg) (required : Bool) : String :=
  let name := if a.positional && (a.mayBeEmpty || !required) then "[" ++ a.valueName ++ "]"
    else "<" ++ a.valueName ++ ">"
  name ++ (if a.positional && a.action == .many then "..." else "")

/-- The argument as messages show it: its long or short name followed by its
value, or its placeholder alone. `required` overrides whether a positional
argument counts as required. -/
def display (a : Arg) (required : Option Bool := none) : String :=
  let name := match a.long, a.short with
    | some l, _ => "--" ++ l
    | none, some s => "-" ++ s.toString
    | none, none => ""
  let suffix :=
    if a.positional then a.placeholder (required.getD a.required)
    else if a.takesValue then " " ++ a.placeholder true
    else ""
  name ++ suffix

end Arg

/-- A command: its name, what it is about, and its arguments. -/
structure Spec where
  /-- the command's own name -/
  name : String
  /-- the name usage lines start with, the program's name included -/
  usageName : String
  /-- what the command does, in one line -/
  about : String
  /-- what the command does, at length -/
  longAbout : Option String := none
  /-- the arguments in the order help lists them -/
  args : List Arg
  /-- the subcommands' names with what they do -/
  subcommands : List (String × String) := []
  /-- whether a subcommand must be given -/
  needsSubcommand : Bool := false
  deriving Inhabited, Repr

namespace Spec

/-- The positional arguments, in order. -/
def positionals (c : Spec) : List Arg := c.args.filter (·.positional)

/-- The arguments given by name, in order. -/
def options (c : Spec) : List Arg := c.args.filter (!·.positional)

/-- The argument with an id. -/
def find? (c : Spec) (id : String) : Option Arg := c.args.find? (·.id == id)

/-- The argument with a long name. -/
def findLong? (c : Spec) (l : String) : Option Arg := c.args.find? (·.long == some l)

/-- The argument with a short name. -/
def findShort? (c : Spec) (s : Char) : Option Arg := c.args.find? (·.short == some s)

/-- The long names of the arguments, in order. -/
def longs (c : Spec) : List String := c.args.filterMap (·.long)

/-- Whether the long help says more than the short one. -/
def hasLongHelp (c : Spec) : Bool :=
  c.longAbout.isSome || c.args.any fun a => a.longHelp.isSome || a.choices.any (!·.2.isEmpty)

/-- Whether `[OPTIONS]` stands in the usage: some optional argument given by
name does something other than show help or the version. -/
def needsOptionsTag (c : Spec) : Bool :=
  c.options.any fun a => !a.required && a.action != .help && a.action != .version

/-- The usage line of the help. -/
def helpUsage (c : Spec) : String :=
  c.usageName ++ (if c.needsOptionsTag then " [OPTIONS]" else "")
    ++ String.join (c.positionals.map fun a => " " ++ a.placeholder a.required)
    ++ (if c.needsSubcommand then " <COMMAND>" else "")

/-- The list without later repeats. -/
def dedup (xs : List String) : List String :=
  xs.foldl (fun acc x => if acc.contains x then acc else acc ++ [x]) []

/-- The usage line shown with an error, listing the required arguments and
the arguments `used` given by name, then every positional argument: those
required or used as required, the others as optional. -/
def usageFor (c : Spec) (used : List String) : String :=
  if used.isEmpty then c.helpUsage
  else
    let wanted := (c.args.filter (·.required)).map (·.id) ++ used
    let named := dedup (wanted.filterMap fun id =>
      match c.find? id with
      | some a => if a.positional then none else some (a.display (some true))
      | none => none)
    let positional := c.positionals.map fun a => a.placeholder (wanted.contains a.id)
    c.usageName ++ String.join (named.map (" " ++ ·)) ++ String.join (positional.map (" " ++ ·))
      ++ (if c.needsSubcommand then " <COMMAND>" else "")

/-- A run of spaces. -/
def spaces (n : Nat) : String := String.ofList (List.replicate n ' ')

/-- Text with each line after the first indented. -/
def indentLines (indent : Nat) (s : String) : String := s.replace "\n" ("\n" ++ spaces indent)

/-- The width an argument takes in its section. -/
def argWidth (a : Arg) : Nat := a.display.length + (if a.positional then 0 else 4)

/-- The spec values of an argument: its default, and its possible values
unless the long help lists them one a line. -/
def specValues (long : Bool) (a : Arg) : List String :=
  let listed := long && a.choices.any (!·.2.isEmpty)
  (a.defaultValue.map fun d => "[default: " ++ d ++ "]").toList
    ++ (if a.choices.isEmpty || listed then []
        else ["[possible values: " ++ ", ".intercalate (a.choices.map (·.1)) ++ "]"])

/-- The help of one argument, after its name. -/
def argHelp (long : Bool) (indent : Nat) (a : Arg) : String :=
  let about := if long then a.longHelp.getD a.help else a.help
  let specs := specValues long a
  if !long then
    let line := if specs.isEmpty then about
      else (if about.isEmpty then "" else about ++ " ") ++ " ".intercalate specs
    indentLines indent line
  else
    let listed := a.choices.any (!·.2.isEmpty)
    let widest := (a.choices.map (·.1.length)).foldl max 0
    let values :=
      if !listed then ""
      else (if about.isEmpty then "" else "\n\n" ++ spaces indent) ++ "Possible values:"
        ++ String.join (a.choices.map fun (n, h) =>
          "\n" ++ spaces indent ++ "- " ++ n ++ ": " ++ spaces (widest - n.length) ++ h)
    let tail := if specs.isEmpty then "" else indentLines indent ("\n\n" ++ "\n".intercalate specs)
    indentLines indent about ++ values ++ tail

/-- One argument's entry in its section. -/
def argEntry (long : Bool) (widest : Nat) (a : Arg) : String :=
  let shortPart := match a.short with
    | some s => "-" ++ s.toString
    | none => if a.long.isSome then "    " else ""
  let longPart := match a.long with
    | some l => (if a.short.isSome then ", " else "") ++ "--" ++ l
    | none => ""
  let suffix := if a.positional then a.placeholder a.required
    else if a.takesValue then " " ++ a.placeholder true else ""
  let head := "  " ++ shortPart ++ longPart ++ suffix
  if long then head ++ "\n" ++ spaces 10 ++ argHelp true 10 a
  else
    let pad := if a.long.isNone && !a.positional then 6 else 2
    head ++ spaces (widest + pad - argWidth a) ++ argHelp false (widest + 4) a

/-- A section of arguments. -/
def argSection (long : Bool) (args : List Arg) : String :=
  let widest := (args.map argWidth).foldl max 2
  (if long then "\n\n" else "\n").intercalate (args.map (argEntry long widest))

/-- The section of subcommands. -/
def commandSection (subs : List (String × String)) : String :=
  let widest := (subs.map (·.1.length)).foldl max 2
  "\n".intercalate (subs.map fun (n, about) => "  " ++ n ++ spaces (widest + 2 - n.length) ++ about)

/-- The text with trailing blanks and line ends removed. -/
def trimEnd (s : String) : String :=
  String.ofList (s.toList.reverse.dropWhile (fun c => c == ' ' || c == '\n')).reverse

/-- The help text, short or long. -/
def helpText (c : Spec) (long : Bool) : String :=
  let about := if long then c.longAbout.getD c.about else c.about
  let sections :=
    (if c.subcommands.isEmpty then [] else ["Commands:\n" ++ commandSection c.subcommands])
    ++ (if c.positionals.isEmpty then [] else ["Arguments:\n" ++ argSection long c.positionals])
    ++ (if c.options.isEmpty then [] else ["Options:\n" ++ argSection long c.options])
  trimEnd (about ++ "\n\nUsage: " ++ c.helpUsage ++ "\n\n" ++ "\n\n".intercalate sections) ++ "\n"

end Spec

end DocBlocks.Command
