import DocBlocks.Failure

/-!
# Templates and deployments by name

A template is a file whose name contains `example.yml` (`app.example.yml`,
`settings.example.yml.erb`); a deployment is a YAML file, its name containing
`.yml`, that is not a template. A template and its deployment are paired by
name: the deployment's name is the template's without its first `.example`,
and the template's is the deployment's with its first `.yml` turned into
`.example.yml`. A name is matched as text, whole paths included.
-/

namespace DocBlocks.Files

/-- Whether `pat` occurs in `cs`. -/
def occursIn (pat : List Char) : List Char → Bool
  | [] => pat.isEmpty
  | c :: rest => pat.isPrefixOf (c :: rest) || occursIn pat rest

/-- `cs` with the first occurrence of the nonempty `pat` replaced by `by`. -/
def replaceFirst (pat new : List Char) : List Char → List Char
  | [] => []
  | c :: rest =>
    if !pat.isEmpty && pat.isPrefixOf (c :: rest) then new ++ (c :: rest).drop pat.length
    else c :: replaceFirst pat new rest

/-- Whether a name names a template. -/
def isTemplate (name : String) : Bool := occursIn "example.yml".toList name.toList

/-- Whether a name names a deployment. -/
def isDeployment (name : String) : Bool :=
  occursIn ".yml".toList name.toList && !isTemplate name

/-- The name of the file paired with `name`. -/
def associated (name : String) : Except Failure String :=
  if isTemplate name then
    .ok (String.ofList (replaceFirst ".example".toList [] name.toList))
  else
    let paired := String.ofList (replaceFirst ".yml".toList ".example.yml".toList name.toList)
    if isTemplate paired then .ok paired else .error (.invalidFilename name)

/-- A template is never a deployment. -/
theorem isDeployment_eq_false_of_isTemplate {name : String} (h : isTemplate name = true) :
    isDeployment name = false := by
  simp [isDeployment, h]

end DocBlocks.Files
