import DocBlocks.Failure

/-!
# Reports of failures

An error travels as a chain of causes: the outermost first, each caused by the
next. Besides failures of the library, a chain may hold notes on what was
being done, YAML errors, faults of the file system and plain messages.

A report turns a chain into a message with an optional suggestion and
optional details. It looks down the chain for the first cause it knows:

* a failure of the library is reported by its message (faults below it are
  not shown), with a suggestion for the failures a user can fix;
* a YAML error is reported with a suggestion and the place where reading
  stopped;
* a missing file or a denied permission is reported by the outermost message,
  with a suggestion.

A chain without any of these is reported by its outermost message followed by
the numbered list of its other causes.
-/

namespace DocBlocks

/-- One link of an error chain. -/
inductive Cause where
  /-- a note on what was being done -/
  | context (text : String)
  | failure (f : Failure)
  | yaml (e : Yaml.Error)
  | io (e : IoError)
  | message (text : String)
  deriving Inhabited, Repr

namespace Cause

/-- The message of a cause alone. -/
def text : Cause → String
  | context t => t
  | failure f => f.message
  | yaml e => e.message
  | io e => e.text
  | message t => t

end Cause

/-- An error as a chain of causes, the outermost first. -/
structure Trouble where
  /-- the causes, the outermost first -/
  chain : List Cause
  deriving Inhabited, Repr

namespace Trouble

/-- The causes that a failure keeps below itself. -/
def sourcesOf : Failure → List Cause
  | .io e => [.io e]
  | .yaml e => [.yaml e]
  | _ => []

/-- A failure and the faults below it. -/
def ofFailure (f : Failure) : Trouble := ⟨.failure f :: sourcesOf f⟩

/-- A YAML error on its own. -/
def ofYaml (e : Yaml.Error) : Trouble := ⟨[.yaml e]⟩

/-- A fault of the file system on its own. -/
def ofIo (e : IoError) : Trouble := ⟨[.io e]⟩

/-- A plain message. -/
def ofMessage (text : String) : Trouble := ⟨[.message text]⟩

/-- The error with a note on what was being done put around it. -/
def withContext (t : Trouble) (text : String) : Trouble := ⟨.context text :: t.chain⟩

/-- The outermost message. -/
def text (t : Trouble) : String := (t.chain.head?.map Cause.text).getD ""

/-- Every message of the chain joined by `: `. -/
def fullText (t : Trouble) : String := ": ".intercalate (t.chain.map Cause.text)

end Trouble

/-- A failure made readable: its message, and optionally how to fix it and
more about it. -/
structure Report where
  /-- what went wrong -/
  message : String
  /-- how to fix it -/
  suggestion : Option String := none
  /-- more about it -/
  details : Option String := none
  deriving Inhabited, Repr

namespace Report

/-- The report as text: the message, then `Details:` and `Suggestion:` lines. -/
def display (r : Report) : String :=
  r.message ++ (r.details.map ("\nDetails: " ++ ·)).getD ""
    ++ (r.suggestion.map ("\nSuggestion: " ++ ·)).getD ""

/-- The report as the lines of a command's error output. -/
def errorLines (r : Report) : List String :=
  ["error: " ++ r.message] ++ (r.details.map ("details: " ++ ·)).toList
    ++ (r.suggestion.map ("suggestion: " ++ ·)).toList

/-- The report of a failure of the library. -/
def ofFailure (f : Failure) : Report :=
  let f := f.detach
  match f with
  | .nonMappingRoot .. =>
    { message := f.message,
      suggestion := some "Make every document in the file a mapping of top-level keys, e.g. 'name: value'",
      details := some "YAMLDoc attaches comment blocks to top-level keys; lists and plain values have none" }
  | .invalidFilename _ =>
    { message := f.message,
      suggestion := some "Templates are named like 'settings.example.yml', deployments like 'settings.yml'" }
  | .fileNotFound path =>
    { message := f.message,
      suggestion := some ("Check that '" ++ path ++ "' exists and the path is correct") }
  | .missingKey =>
    { message := f.message, suggestion := some "Supply a non-null key when building a mapping" }
  | _ => { message := f.message }

/-- The report of a YAML error. -/
def ofYaml (e : Yaml.Error) : Report :=
  { message := "YAML error: " ++ e.message,
    suggestion := some "Check the YAML syntax of the file. Verify indentation, quoting and list markers",
    details := some <| match e.mark? with
      | some m => "The YAML decoder stopped at line " ++ toString (m.line + 1) ++ ", column "
          ++ toString (m.column + 1) ++ " of the document"
      | none => "The YAML decoder rejected the document" }

/-- The report of the first known cause among `causes`, for the error whose
outermost message is `outer`. -/
def ofCauses (outer : String) : List Cause → Option Report
  | [] => none
  | .failure f :: _ => some (ofFailure f)
  | .yaml e :: _ => some (ofYaml e)
  | .io e :: rest =>
    match e.kind with
    | .permissionDenied =>
      some { message := outer,
             suggestion := some "Check the file permissions of the template and its deployment directory",
             details := some "YAMLDoc needs to read templates and write deployments" }
    | .notFound =>
      some { message := outer, suggestion := some "Check that the file exists and the path is correct" }
    | _ => ofCauses outer rest
  | _ :: rest => ofCauses outer rest

/-- The outermost message followed by the numbered list of the other causes. -/
def chainText (t : Trouble) : String :=
  match t.chain with
  | [] => ""
  | first :: rest =>
    if rest.isEmpty then first.text
    else
      let numbered := (List.range rest.length).zip rest |>.map fun (i, c) =>
        "\n  " ++ toString (i + 1) ++ ": " ++ c.text
      first.text ++ "\n\nCaused by:" ++ String.join numbered

/-- The report of an error. -/
def ofTrouble (t : Trouble) : Report :=
  match ofCauses t.text t.chain with
  | some r => r
  | none => { message := chainText t }

end Report

end DocBlocks
