import DocBlocks.Files.Install
import DocBlocks.Command.Parse

/-!
# `yamldoc install`

The templates named, or when none is named all templates beneath a directory,
are installed one after the other. For each, the findings of its checks are
shown, then one line saying what became of it. The command fails when any
template was not installed.
-/

namespace DocBlocks.Command

open Files

/-- The line saying what became of a template. -/
def installLine (template : String) : Except Trouble InstallOutcome → String
  | .ok (.installed target) => "✓ Installed " ++ template ++ " -> " ++ target
  | .ok .missing => "✗ Template " ++ template ++ " does not exist"
  | .ok .notATemplate => "✗ " ++ template ++ " is not a template"
  | .ok .invalid => "✗ " ++ template ++ " failed validation, not installed"
  | .error t => "✗ Failed to install " ++ template ++ ": " ++ t.fullText

/-- What installing shows for each template. -/
def installText (done : List (String × Installation)) : String :=
  String.join (done.map fun (t, i) =>
    String.join (i.findings.map (·.line ++ "\n")) ++ installLine t i.result ++ "\n")

variable {m : Type → Type} [Monad m] [FileSystem m]

/-- Installs templates: what it shows, and whether it failed. -/
def installTemplates (named : List String) (dir : String) : m (String × Except Trouble Unit) := do
  let chosen ← if named.isEmpty then findTemplates dir else pure (.ok named)
  match chosen with
  | .error t => return ("", .error t)
  | .ok [] => return ("No templates found beneath " ++ dir ++ "\n", .ok ())
  | .ok templates =>
    let done ← templates.mapM fun t => return (t, ← install t)
    let failed := (done.filter (!·.2.succeeded)).length
    let result := if failed == 0 then .ok ()
      else .error (Trouble.ofMessage (toString failed ++ " of " ++ toString templates.length
        ++ " template(s) failed to install"))
    return (installText done, result)

end DocBlocks.Command
