import DocBlocks.Command.Spec

/-!
# The command line of `yamldoc`

`yamldoc` has three commands, each with its own arguments:

* `validate FILE...` checks the docblocks of files, `--format` choosing text or
  JSON and `--strict` counting warnings as failures;
* `install [TEMPLATE]...` rebuilds deployments from templates, all those
  beneath `--path` when none is named;
* `list [PATH]` shows the templates and deployments beneath a directory.

`--verbose`, `--quiet` and `--no-color` may stand before or after the command;
`--verbose` and `--quiet` exclude each other. `help` shows the help of the
program or of a command.
-/

namespace DocBlocks.Command

/-- The program's version. -/
def version : String := "0.1.0"

/-- `--verbose`. -/
def verboseArg : Arg :=
  { id := "verbose", short := some 'v', long := some "verbose",
    help := "Show debug diagnostics on stderr",
    longHelp := some ("Show debug diagnostics on stderr\n\n" ++
      "Equivalent to \x60RUST_LOG=debug\x60. Mutually exclusive with \x60--quiet\x60."),
    conflicts := ["quiet"] }

/-- `--quiet`. -/
def quietArg : Arg :=
  { id := "quiet", short := some 'q', long := some "quiet", help := "Only log errors" }

/-- `--no-color`. -/
def noColorArg : Arg :=
  { id := "no_color", long := some "no-color", help := "Disable colored output" }

/-- The arguments every command takes. -/
def sharedArgs : List Arg := [verboseArg, quietArg, noColorArg]

/-- `--help`. -/
def helpArg : Arg :=
  { id := "help", short := some 'h', long := some "help", action := .help,
    help := "Print help (see more with '--help')",
    longHelp := some "Print help (see a summary with '-h')" }

/-- `--version`. -/
def versionArg : Arg :=
  { id := "version", short := some 'V', long := some "version", action := .version,
    help := "Print version" }

/-- The two output formats. -/
def formatChoices : List (String × String) :=
  [("text", "Human-readable text with colored markers"), ("json", "Structured JSON on stdout")]

/-- `--format`, with the help it has in `validate`. -/
def formatArg (longHelp : Option String) : Arg :=
  { id := "format", long := some "format", action := .single, kind := .oneOf formatChoices,
    valueName := "FORMAT", help := "Output format: text or json", longHelp,
    defaultValue := some "text" }

/-- `yamldoc validate`. -/
def validateSpec : Spec :=
  { name := "validate", usageName := "yamldoc validate",
    about := "Validate the YAMLDoc blocks of one or more files",
    longAbout := some ("Validate the YAMLDoc blocks of one or more files.\n\n" ++
      "See [\x60ValidateCommand\x60] for options."),
    args :=
      [{ id := "files", positional := true, action := .many, kind := .path, valueName := "FILE",
         required := true, help := "Files to validate" },
       formatArg (some ("Output format: text or json\n\n" ++
         "- \x60text\x60: findings and a summary line per file " ++
         "- \x60json\x60: a single object suitable for automation")),
       { id := "strict", long := some "strict", help := "Strict mode (treat warnings as errors)",
         longHelp := some ("Strict mode (treat warnings as errors)\n\n" ++
           "A file with over-long docblock lines fails validation.") }]
      ++ sharedArgs ++ [helpArg] }

/-- `yamldoc install`. -/
def installSpec : Spec :=
  { name := "install", usageName := "yamldoc install",
    about := "Regenerate deployments from templates",
    longAbout := some ("Regenerate deployments from templates.\n\n" ++
      "See [\x60InstallCommand\x60] for options."),
    args :=
      [{ id := "templates", positional := true, action := .many, kind := .path,
         valueName := "TEMPLATE",
         help := "Templates to install (defaults to every template beneath --path)" },
       { id := "path", long := some "path", action := .single, kind := .path, valueName := "PATH",
         help := "Directory searched for templates when none are named",
         defaultValue := some "." }]
      ++ sharedArgs ++ [helpArg] }

/-- `yamldoc list`. -/
def listSpec : Spec :=
  { name := "list", usageName := "yamldoc list",
    about := "List templates and deployments beneath a directory",
    longAbout := some ("List templates and deployments beneath a directory.\n\n" ++
      "See [\x60ListCommand\x60] for options."),
    args :=
      [{ id := "path", positional := true, action := .single, kind := .path, valueName := "PATH",
         help := "Directory to search", defaultValue := some "." },
       formatArg none]
      ++ sharedArgs ++ [helpArg] }

/-- `yamldoc help`. -/
def helpSpec : Spec :=
  { name := "help", usageName := "yamldoc help",
    about := "Print this message or the help of the given subcommand(s)",
    args :=
      [{ id := "subcommand", positional := true, action := .many, valueName := "COMMAND",
         mayBeEmpty := true, help := "Print help for the subcommand(s)" }] }

/-- The commands, in the order help lists them. -/
def commands : List Spec := [validateSpec, installSpec, listSpec, helpSpec]

/-- `yamldoc` itself. -/
def programSpec : Spec :=
  { name := "yamldoc", usageName := "yamldoc",
    about := "Document, validate and install YAML configuration templates",
    longAbout := some ("YAMLDoc attaches comment blocks to every top-level key of a YAML " ++
      "template, validates them, and regenerates deployment files from validated templates."),
    args := sharedArgs ++ [helpArg, versionArg],
    subcommands := commands.map fun c => (c.name, c.about),
    needsSubcommand := true }

/-- The command with a name, among the commands of a spec. -/
def subcommand? (c : Spec) (name : String) : Option Spec :=
  if c.subcommands.any (·.1 == name) then commands.find? (·.name == name) else none

end DocBlocks.Command
