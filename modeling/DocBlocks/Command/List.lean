import DocBlocks.Files.Install
import DocBlocks.Command.Parse
import DocBlocks.Text.Json

/-!
# `yamldoc list`

The templates beneath a directory are listed with their deployments and
whether those stand, and then the deployments. As text the templates'
paths are padded to one width, so that what follows them lines up.
-/

namespace DocBlocks.Command

open Files

/-- A template found, with its deployment. -/
structure TemplateEntry where
  /-- the template's path -/
  path : String
  /-- the path of its deployment -/
  deployment : Option String
  /-- whether the deployment stands -/
  installed : Bool
  deriving Inhabited, Repr

/-- What a directory holds. -/
structure Listing where
  /-- the templates, in order -/
  templates : List TemplateEntry := []
  /-- the deployments, in order -/
  deployments : List String := []
  deriving Inhabited, Repr

namespace Listing

/-- Text padded with spaces to a width. -/
def padRight (s : String) (width : Nat) : String :=
  s ++ String.ofList (List.replicate (width - s.length) ' ')

/-- The listing as text. -/
def text (l : Listing) : String :=
  if l.templates.isEmpty && l.deployments.isEmpty then "No YAML templates or deployments found\n"
  else
    let width := (l.templates.map (·.path.length)).foldl max 0
    let status (e : TemplateEntry) : String :=
      match e.deployment, e.installed with
      | some d, true => "✓ installed -> " ++ d
      | _, _ => "✗ not installed"
    "Templates:\n" ++ String.join (l.templates.map fun e => "  " ++ padRight e.path width ++ " " ++ status e ++ "\n")
      ++ "Deployments:\n" ++ String.join (l.deployments.map fun d => "  " ++ d ++ "\n")

/-- The listing as JSON. -/
def json (l : Listing) : Json :=
  .object [("templates", .array (l.templates.map fun e =>
              .object [("path", .text e.path),
                       ("deployment", match e.deployment with | some d => .text d | none => .null),
                       ("installed", .bool e.installed)])),
           ("deployments", .array (l.deployments.map .text))]

end Listing

variable {m : Type → Type} [Monad m] [FileSystem m]

/-- What a directory holds. -/
def collect (dir : String) : m (Except Trouble Listing) := do
  match ← findTemplates dir with
  | .error t => return .error t
  | .ok found =>
    let templates ← found.mapM fun t => do
      return { path := t, deployment := (associated t).toOption, installed := ← isInstalled t }
    match ← findDeployments dir with
    | .error t => return .error t
    | .ok deployments => return .ok { templates, deployments }

/-- Lists a directory: what it shows, and whether it failed. -/
def listDirectory (dir : String) (format : Format) : m (String × Except Trouble Unit) := do
  match ← collect dir with
  | .error t => return ("", .error t)
  | .ok l =>
    match format with
    | .text => return (l.text, .ok ())
    | .json => return (l.json.pretty ++ "\n", .ok ())

end DocBlocks.Command
