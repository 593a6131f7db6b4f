import DocBlocks.Command.Line
import DocBlocks.Command.Similar

/-!
# Reading the command line

The words of the command line are read one at a time against the spec of the
command they belong to:

* `--name` and `--name=value` are long arguments, `-abc` a run of short ones;
* a word after an option that waits for a value is that value;
* `--` makes every later word positional;
* other words fill the positional arguments in order, or name a subcommand.

An argument takes its values when the next argument is read (or when the
words run out), so a value that cannot be read is found only then. After the
words of a subcommand come the checks of the subcommand, and then those of
the program: a subcommand must be given, arguments that exclude each other
must not both be given, and required arguments must be.

Anything wrong stops the reading with a message in a fixed form: the problem,
then tips, then a usage line, then a pointer to `--help`. Help and the version
stop it too, but are shown as output.
-/

namespace DocBlocks.Command

/-- Why the command line stops before any command runs: help or the version
was asked for, or the line is wrong. -/
structure Halt where
  /-- what is shown -/
  text : String
  /-- whether the text is output and the run a success, rather than an error -/
  shown : Bool := false
  deriving Inhabited, Repr

/-- The exit status of a halt: `0` for help and the version, `2` for an error. -/
def Halt.status (h : Halt) : Nat := if h.shown then 0 else 2

/-- A problem with the command line, and what its message says besides. -/
structure Problem where
  /-- what is wrong -/
  message : String
  /-- known subcommands close to a word given -/
  similarCommands : List String := []
  /-- a known argument close to one given -/
  similarArg : Option String := none
  /-- a possible value close to one given -/
  similarValue : Option String := none
  /-- further tips -/
  tips : List String := []
  /-- the usage line -/
  usage : Option String := none
  deriving Inhabited, Repr

/-- A tip naming similar words. -/
def similarTip (what : String) (names : List String) : String :=
  "  tip: " ++ (if names.length == 1 then "a similar " ++ what ++ " exists: "
    else "some similar " ++ what ++ "s exist: ") ++ ", ".intercalate (names.map fun n => "'" ++ n ++ "'")

/-- The message of a problem. -/
def Problem.text (p : Problem) : String :=
  let similar := (if p.similarCommands.isEmpty then [] else [similarTip "subcommand" p.similarCommands])
    ++ (p.similarArg.map fun a => similarTip "argument" [a]).toList
    ++ (p.similarValue.map fun v => similarTip "value" [v]).toList
  let similarText := match similar with
    | [] => ""
    | first :: rest => "\n\n" ++ first ++ String.join (rest.map ("\n" ++ ·))
  let tipsText := if p.tips.isEmpty then ""
    else (if similar.isEmpty then "\n" else "") ++ String.join (p.tips.map ("\n  tip: " ++ ·))
  let usageText := (p.usage.map ("\n\nUsage: " ++ ·)).getD ""
  "error: " ++ p.message ++ similarText ++ tipsText ++ usageText
    ++ "\n\nFor more information, try '--help'.\n"

/-- Stops with a problem. -/
def Problem.halt (p : Problem) : Halt := ⟨p.text, false⟩

/-- The list of possible values after a message. -/
def valuesList (a : Arg) : String :=
  if a.choices.isEmpty then "" else "\n  [possible values: " ++ ", ".intercalate (a.choices.map (·.1)) ++ "]"

/-- An argument given without a value, or with an empty one. -/
def emptyValue (a : Arg) : Halt :=
  Problem.halt { message := "a value is required for '" ++ a.display ++ "' but none was supplied" ++ valuesList a }

/-- A value that is not one of the possible values. -/
def invalidValue (a : Arg) (v : String) : Halt :=
  if v.isEmpty then emptyValue a
  else Problem.halt
    { message := "invalid value '" ++ v ++ "' for '" ++ a.display ++ "'" ++ valuesList a,
      similarValue := (closeWords v (a.choices.map (·.1))).getLast? }

/-- Arguments given together that exclude each other, or one given twice. -/
def conflict (a : Arg) (others : List String) (usage : String) : Halt :=
  let head := "the argument '" ++ a.display ++ "' cannot be used"
  let message := match others with
    | [o] => if o == a.display then head ++ " multiple times" else head ++ " with '" ++ o ++ "'"
    | [] => head ++ " with one or more of the other specified arguments"
    | os => head ++ " with:" ++ String.join (os.map ("\n  " ++ ·))
  Problem.halt { message, usage := some usage }

/-- The help of a command. -/
def helpHalt (c : Spec) (long : Bool) : Halt := ⟨c.helpText (long && c.hasLongHelp), true⟩

/-- The program's version. -/
def versionHalt : Halt := ⟨"yamldoc " ++ version ++ "\n", true⟩

/-- The help of the command reached by following subcommand names. -/
def helpRequest (c : Spec) : List String → Halt
  | [] => helpHalt c true
  | n :: rest =>
    match subcommand? c n with
    | some sc => helpRequest sc rest
    | none => Problem.halt { message := "unrecognized subcommand '" ++ n ++ "'", usage := some c.helpUsage }

/-- How far the arguments of one command have been read. -/
structure Reading where
  /-- the arguments given, each with its values, in the order they were taken -/
  given : List (String × List String) := []
  /-- an argument still to take its values, and those values so far -/
  pending : Option (String × List String) := none
  /-- whether an option waits for its value -/
  waiting : Bool := false
  /-- the index of the next positional argument -/
  position : Nat := 0
  /-- whether `--` was given, after which every word is positional -/
  trailing : Bool := false
  deriving Inhabited, Repr

namespace Reading

/-- Whether an argument was given. -/
def has (r : Reading) (id : String) : Bool := r.given.any (·.1 == id)

/-- The values given to an argument. -/
def values (r : Reading) (id : String) : List String :=
  ((r.given.find? (·.1 == id)).map (·.2)).getD []

/-- The arguments given. -/
def ids (r : Reading) : List String := r.given.map (·.1)

/-- The reading with an argument given, if it was not given yet. -/
def mark (r : Reading) (id : String) : Reading :=
  if r.has id then r else { r with given := r.given ++ [(id, [])] }

/-- The reading with values added to an argument. -/
def addValues (r : Reading) (id : String) (vs : List String) : Reading :=
  if r.has id then { r with given := r.given.map fun (k, old) => if k == id then (k, old ++ vs) else (k, old) }
  else { r with given := r.given ++ [(id, vs)] }

end Reading

/-- The first problem with values an argument cannot take. -/
def checkValues (a : Arg) : List String → Option Halt
  | [] => none
  | v :: rest =>
    match a.kind with
    | .path => if v.isEmpty then some (emptyValue a) else checkValues a rest
    | .text => checkValues a rest
    | .oneOf cs => if cs.any (·.1 == v) then checkValues a rest else some (invalidValue a v)

/-- An argument takes its values. `long` says it was given by its long
name. The reading after it comes with the problem, if there is one: an
argument can count as given even though its values are wrong. -/
def take (c : Spec) (r : Reading) (a : Arg) (vs : List String) (long : Bool) : Reading × Option Halt :=
  if a.takesValue && vs.isEmpty then (r, some (emptyValue a))
  else
    match a.action with
    | .help => (r, some (helpHalt c long))
    | .version => (r, some versionHalt)
    | .many => (r.addValues a.id vs, checkValues a vs)
    | _ =>
      if r.has a.id then (r, some (conflict a [a.display] c.helpUsage))
      else (r.addValues a.id vs, checkValues a vs)

/-- The pending argument takes its values. -/
def resolve (c : Spec) (r : Reading) : Reading × Option Halt :=
  match r.pending with
  | none => (r, none)
  | some (id, vs) =>
    let r := { r with pending := none, waiting := false }
    match c.find? id with
    | some a => take c r a vs false
    | none => (r, none)

/-- A step that stops on a problem. -/
def orHalt : Reading × Option Halt → Except Halt Reading
  | (r, none) => .ok r
  | (_, some h) => .error h

/-- A word naming no argument. -/
def unknownArgument (word : String) (similar : Option String) (tips : List String)
    (usage : String) : Halt :=
  Problem.halt { message := "unexpected argument '" ++ word ++ "' found",
                 similarArg := similar, tips, usage := some usage }

/-- The tip for passing a word that looks like an argument as a value. -/
def asValueTip (word : String) : String :=
  "to pass '" ++ word ++ "' as a value, use '-- " ++ word ++ "'"

/-- A long name close to one of a subcommand given later on the line. -/
def subcommandTip (c : Spec) (name : String) (rest : List String) : Option String :=
  let found := c.subcommands.filterMap fun (sub, _) =>
    match subcommand? c sub, rest.idxOf? sub with
    | some sc, some at_ => ((closeWords name sc.longs).getLast?).map fun l => (at_, sub, l)
    | _, _ => none
  let best := found.foldl (fun acc x =>
    match acc with
    | some y => if x.1 < y.1 then some x else acc
    | none => some x) none
  best.map fun (_, sub, l) => "'" ++ sub ++ " --" ++ l ++ "' exists"

/-- An unknown long argument, with the known one closest to it. -/
def unknownLong (c : Spec) (r : Reading) (name : String) (rest : List String) : Halt :=
  let word := "--" ++ name
  let similar := (closeWords name c.longs).getLast?
  let r := match similar.bind c.findLong? with
    | some a => r.mark a.id
    | none => r
  let tips := (if similar.isNone && !r.trailing && !c.positionals.isEmpty then [asValueTip word] else [])
    ++ (if similar.isNone then (subcommandTip c name rest).toList else [])
  unknownArgument word (similar.map ("--" ++ ·)) tips (c.usageFor r.ids)

/-- A word that fills no positional argument. -/
def unexpectedWord (c : Spec) (r : Reading) (word : String) : Halt :=
  if r.trailing && (subcommand? c word).isSome then
    Problem.halt { message := "unexpected argument '" ++ word ++ "' found",
                   tips := ["subcommand '" ++ word ++ "' exists; to use it, remove the '--' before it"],
                   usage := some c.helpUsage }
  else if !c.subcommands.isEmpty then
    let similar := closeWords word (c.subcommands.map (·.1))
    if !similar.isEmpty then
      Problem.halt { message := "unrecognized subcommand '" ++ word ++ "'",
                     similarCommands := similar, usage := some c.helpUsage }
    else if c.positionals.isEmpty then
      Problem.halt { message := "unrecognized subcommand '" ++ word ++ "'", usage := some c.helpUsage }
    else unknownArgument word none [] c.helpUsage
  else unknownArgument word none [] c.helpUsage

/-- Reads a run of short arguments. -/
def readShorts (c : Spec) (r : Reading) : List Char → Except Halt Reading
  | [] => .ok r
  | ch :: more =>
    match c.findShort? ch with
    | none =>
      let word := "-" ++ ch.toString
      .error (unknownArgument word none
        (if !r.trailing && !c.positionals.isEmpty then [asValueTip word] else []) c.helpUsage)
    | some a =>
      if !a.takesValue then do
        let r ← orHalt (resolve c r)
        let r ← orHalt (take c r a [] false)
        readShorts c r more
      else do
        let attached := String.ofList more
        let r ← orHalt (resolve c r)
        if attached.isEmpty then return { r with pending := some (a.id, []), waiting := true }
        else
          let v := if attached.startsWith "=" then (attached.drop 1).toString else attached
          orHalt (take c r a [v] false)

/-- Splits `name=value`. -/
def splitAttached (body : String) : String × Option String :=
  match body.splitOn "=" with
  | [name] => (name, none)
  | name :: values => (name, some ("=".intercalate values))
  | [] => (body, none)

/-- Reads a long argument, `--name` or `--name=value`. -/
def readLong (c : Spec) (r : Reading) (body : String) (rest : List String) : Except Halt Reading :=
  let (name, attached) := splitAttached body
  match c.findLong? name with
  | none => .error (unknownLong c (resolve c r).1 name rest)
  | some a =>
    if a.takesValue then
      match attached with
      | some v => do
        let r ← orHalt (resolve c r)
        orHalt (take c r a [v] true)
      | none => do
        let r ← orHalt (resolve c r)
        return { r with pending := some (a.id, []), waiting := true }
    else
      match attached with
      | some v =>
        let r := (resolve c r).1
        let used := r.ids.filter (fun id => !((c.find? id).map (·.required)).getD false) ++ [a.id]
        .error (Problem.halt { message := "unexpected value '" ++ v ++ "' for '" ++ a.display
                                 ++ "' found; no more were expected",
                               usage := some (c.usageFor used) })
      | none => do
        let r ← orHalt (resolve c r)
        orHalt (take c r a [] true)

/-- Reads a positional word. -/
def readWord (c : Spec) (r : Reading) (word : String) : Except Halt Reading :=
  if r.waiting && !r.trailing then
    .ok { r with pending := r.pending.map (fun (id, vs) => (id, vs ++ [word])), waiting := false }
  else
    match c.positionals[r.position]? with
    | some a => do
      let r ← orHalt (resolve c r)
      return { r with pending := some (a.id, [word]),
                      position := if a.action == .many then r.position else r.position + 1 }
    | none => .error (unexpectedWord c (resolve c r).1 word)

/-- Reads the words of one command, up to a subcommand, which comes back
with the words after it. -/
def readWords (c : Spec) : List String → Reading → Except Halt (Reading × Option (String × List String))
  | [], r => do return (← orHalt (resolve c r), none)
  | word :: rest, r =>
    if !r.trailing && c.subcommands.any (·.1 == word) then
      if word == "help" then .error (helpRequest c rest) else .ok (r, some (word, rest))
    else if !r.trailing && word == "--" then readWords c rest { r with trailing := true }
    else if !r.trailing && word.startsWith "--" then do
      readWords c rest (← readLong c r (word.drop 2).toString rest)
    else if !r.trailing && word.startsWith "-" && word.length > 1 then do
      readWords c rest (← readShorts c r (word.drop 1).toString.toList)
    else do
      readWords c rest (← readWord c r word)

/-- The checks after the words of a command are read. -/
def checkReading (c : Spec) (r : Reading) (hasSubcommand : Bool) : Except Halt Unit := do
  if !hasSubcommand && c.needsSubcommand then
    if r.given.isEmpty then throw ⟨c.helpText false, false⟩
    throw (Problem.halt
      { message := "'" ++ c.name ++ "' requires a subcommand but one was not provided"
          ++ "\n  [subcommands: " ++ ", ".intercalate (c.subcommands.map (·.1)) ++ "]",
        usage := some c.helpUsage })
  for id in r.ids do
    match c.find? id with
    | none => pure ()
    | some a =>
      let clashes := r.ids.filter fun other =>
        other != id && (a.conflicts.contains other || ((c.find? other).map (·.conflicts.contains id)).getD false)
      if !clashes.isEmpty then
        let shown := Spec.dedup (clashes.filterMap fun o => (c.find? o).map (·.display))
        throw (conflict a shown (c.usageFor (r.ids.filter (!clashes.contains ·))))
  let missing := c.args.filter fun a => a.required && !r.has a.id
  if !missing.isEmpty then
    throw (Problem.halt
      { message := "the following required arguments were not provided:"
          ++ String.join (missing.map fun a => "\n  " ++ a.display (some true)),
        usage := some (c.usageFor (r.ids ++ missing.map (·.id))) })

/-- The output formats. -/
inductive Format where
  | text
  | json
  deriving Inhabited, Repr, DecidableEq

/-- The format a value names. -/
def Format.ofName (name : String) : Format := if name == "json" then .json else .text

/-- What the command line asks for. -/
inductive Request where
  /-- check the docblocks of files -/
  | validate (files : List String) (format : Format) (strict : Bool)
  /-- rebuild deployments from the templates named, or from all those beneath `path` -/
  | install (templates : List String) (path : String)
  /-- show the templates and deployments beneath a directory -/
  | list (path : String) (format : Format)
  deriving Inhabited, Repr

/-- A command line read: the request, and the switches given anywhere. -/
structure Invocation where
  /-- what is asked for -/
  request : Request
  /-- whether debug diagnostics were asked for -/
  verbose : Bool := false
  /-- whether only errors should be logged -/
  quiet : Bool := false
  /-- whether colours were turned off -/
  noColor : Bool := false
  deriving Inhabited, Repr

/-- The value of an argument, or its default. -/
def valueOr (r : Reading) (id fallback : String) : String := (r.values id).head?.getD fallback

/-- The request of a subcommand. -/
def requestOf (name : String) (r : Reading) : Request :=
  if name == "validate" then
    .validate (r.values "files") (Format.ofName (valueOr r "format" "text")) (r.has "strict")
  else if name == "install" then .install (r.values "templates") (valueOr r "path" ".")
  else .list (valueOr r "path" ".") (Format.ofName (valueOr r "format" "text"))

/-- Reads the command line, the words after the program's name. -/
def readCommandLine (words : List String) : Except Halt Invocation := do
  let (top, sub) ← readWords programSpec words {}
  match sub with
  | none =>
    checkReading programSpec top false
    throw (helpHalt programSpec false)
  | some (name, rest) =>
    match subcommand? programSpec name with
    | none => throw (unexpectedWord programSpec top name)
    | some sc =>
      let (r, _) ← readWords sc rest {}
      checkReading sc r false
      checkReading programSpec top true
      let switch (id : String) := top.has id || r.has id
      return { request := requestOf name r, verbose := switch "verbose", quiet := switch "quiet",
               noColor := switch "no_color" }

end DocBlocks.Command
