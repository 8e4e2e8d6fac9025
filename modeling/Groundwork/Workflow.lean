/-
Workflows: an adapter with the image that it runs in, its environment, and the
commands that are run first.
-/
import Groundwork.Adapter
import Groundwork.Image

set_option autoImplicit false

namespace Groundwork

/-! ## Init commands -/

/-- What an init command does. -/
inductive Action where
  /-- Runs a line in the shell. -/
  | run (line : String)
  /-- Logs the tool in to a backend. -/
  | login (backend : String)
  /-- Sets up a profile. -/
  | aws (profile : String)
deriving DecidableEq, Repr

/-- A command that is run before the tool. -/
structure InitCommand where
  action : Action
  env : Table String := .empty
  /-- Whether its output is left out of the result. -/
  omitOutput : Bool := false
deriving DecidableEq, Repr

namespace InitCommand

/-- A command as it is written. -/
structure Document where
  run : Option String := none
  login : Option String := none
  aws : Option String := none
  env : Table String := .empty
  omitOutput : Bool := false
deriving DecidableEq, Repr

/-- Why a command does no one thing. -/
inductive Error where
  | noAction
  | severalActions
deriving DecidableEq, Repr

/-- What is said about it. -/
def Error.message : Error → String
  | noAction => "one of run, login or aws must be set"
  | severalActions => "only one of run, login or aws may be set"

/-- Reads a command as it is written. -/
def Document.read (d : Yaml.Document) (node : Yaml.Node) : Except Yaml.Error Document := do
  let fs ← d.fields ["run", "login", "aws", "env", "omitOutput"] node
  let optional := Yaml.Document.option Yaml.Document.text
  return {
    run := ← d.field fs "run" none optional
    login := ← d.field fs "login" none optional
    aws := ← d.field fs "aws" none optional
    env := ← d.field fs "env" .empty (Yaml.Document.table Yaml.Document.text)
    omitOutput := ← d.field fs "omitOutput" false Yaml.Document.flag }

/-- Writes a command. -/
def Document.tree (c : Document) : Yaml.Tree :=
  .record <| Yaml.Tree.optionField "run" c.run ++ Yaml.Tree.optionField "login" c.login
    ++ Yaml.Tree.optionField "aws" c.aws ++ Yaml.Tree.tableField "env" c.env
    ++ Yaml.Tree.flagField "omitOutput" c.omitOutput

/-- The actions that are written. -/
def Document.actions (c : Document) : List Action :=
  (c.run.map Action.run).toList ++ (c.login.map Action.login).toList ++ (c.aws.map Action.aws).toList

/-- The command that is written. -/
def ofDocument (c : Document) : Except Error InitCommand :=
  match c.actions with
  | [] => .error .noAction
  | [action] => .ok ⟨action, c.env, c.omitOutput⟩
  | _ => .error .severalActions

/-- A command as it is to be written. -/
def document (c : InitCommand) : Document :=
  let doc : Document := { env := c.env, omitOutput := c.omitOutput }
  match c.action with
  | .run line => { doc with run := some line }
  | .login backend => { doc with login := some backend }
  | .aws profile => { doc with aws := some profile }

/-- What is written for a command is read as that command. -/
theorem ofDocument_document (c : InitCommand) : ofDocument c.document = .ok c := by
  obtain ⟨action, env, hidden⟩ := c
  cases action <;> rfl

end InitCommand

/-- An environment as a list of `KEY=value`. -/
def environmentPairs (env : Table String) : List String :=
  env.entries.map fun e => e.1 ++ "=" ++ e.2

/-! ## Workflows -/

/-- How projects are run. -/
structure Workflow where
  adapter : Adapter
  image : String := ""
  env : Table String := .empty
  podAnnotations : Table String := .empty
  initCommands : List InitCommand := []
deriving DecidableEq, Repr

namespace Workflow

/-- A workflow as it is written. -/
structure Document where
  terraform : Option Install := none
  helmfile : Option Install := none
  pulumi : Option Install := none
  image : String := ""
  env : Table String := .empty
  podAnnotations : Table String := .empty
  initCommands : List InitCommand.Document := []
deriving DecidableEq, Repr

/-- Why a workflow cannot be used. -/
inductive Error where
  | selection (e : Adapter.Error)
  | command (index : Nat) (e : InitCommand.Error)
  | install (tool : Tool) (e : Install.Error)
  | missingImage
  | invalidImage (image : String) (e : Image.Error)
  | disallowedImage (image path : String)
deriving DecidableEq, Repr

/-- The texts of an error, its own and then those of what caused it. -/
def Error.chain : Error → List String
  | selection e => [e.message]
  | command index e => ["command " ++ toString index ++ ": " ++ e.message, e.message]
  | install tool e => ["adapter " ++ tool.name ++ ": " ++ e.message, e.message]
  | missingImage => ["image not set"]
  | invalidImage image e => ["invalid image " ++ image ++ ": " ++ e.message]
  | disallowedImage image path =>
    ["invalid image " ++ image ++ " (" ++ path ++ "): must be alpine or debian"]

/-- What is said about an error. -/
def Error.message (e : Error) : String :=
  e.chain.headD ""

/-- Reads a workflow as it is written. -/
def Document.read (d : Yaml.Document) (node : Yaml.Node) : Except Yaml.Error Document := do
  let fs ← d.fields
    ["terraform", "helmfile", "pulumi", "image", "env", "podAnnotations", "initCommands"] node
  return {
    terraform := ← d.field fs "terraform" none (Yaml.Document.option Install.read)
    helmfile := ← d.field fs "helmfile" none (Yaml.Document.option Install.read)
    pulumi := ← d.field fs "pulumi" none (Yaml.Document.option Install.read)
    image := ← d.field fs "image" "" Yaml.Document.text
    env := ← d.field fs "env" .empty (Yaml.Document.table Yaml.Document.text)
    podAnnotations := ← d.field fs "podAnnotations" .empty (Yaml.Document.table Yaml.Document.text)
    initCommands := ← d.field fs "initCommands" [] (Yaml.Document.list InitCommand.Document.read) }

/-- A field for the adapter of a tool, left out when it is not set. -/
def installField (name : String) (i : Option Install) : List (String × Yaml.Tree) :=
  i.toList.map fun i => (name, i.tree)

/-- Writes a workflow. -/
def Document.tree (w : Document) : Yaml.Tree :=
  .record <| installField "terraform" w.terraform ++ installField "helmfile" w.helmfile
    ++ installField "pulumi" w.pulumi ++ [("image", .text w.image)]
    ++ Yaml.Tree.tableField "env" w.env ++ Yaml.Tree.tableField "podAnnotations" w.podAnnotations
    ++ Yaml.Tree.listField "initCommands" (w.initCommands.map InitCommand.Document.tree)

/-- The adapters that are written. -/
def Document.adapters (w : Document) : List Adapter :=
  (w.terraform.map (Adapter.mk .terraform)).toList ++ (w.helmfile.map (Adapter.mk .helmfile)).toList
    ++ (w.pulumi.map (Adapter.mk .pulumi)).toList

/-- The commands that are written, numbered from `index` in errors. -/
def commandsOf (index : Nat) : List InitCommand.Document → Except Error (List InitCommand)
  | [] => .ok []
  | c :: cs =>
    match InitCommand.ofDocument c with
    | .error e => .error (.command index e)
    | .ok c => (commandsOf (index + 1) cs).map (c :: ·)

/-- The workflow that is written, not yet validated. -/
def ofDocument (w : Document) : Except Error Workflow := do
  let adapter ← (Adapter.select w.adapters).mapError Error.selection
  let initCommands ← commandsOf 0 w.initCommands
  return ⟨adapter, w.image, w.env, w.podAnnotations, initCommands⟩

/-- A workflow as it is to be written. -/
def document (w : Workflow) : Document :=
  let doc : Document :=
    { image := w.image, env := w.env, podAnnotations := w.podAnnotations,
      initCommands := w.initCommands.map InitCommand.document }
  match w.adapter.tool with
  | .terraform => { doc with terraform := some w.adapter.install }
  | .helmfile => { doc with helmfile := some w.adapter.install }
  | .pulumi => { doc with pulumi := some w.adapter.install }

/-- Checks the image that a workflow runs in. -/
def validateImage (image : String) : Except Error Unit :=
  if image = "" then .error .missingImage
  else match Image.parse image with
    | .error e => .error (.invalidImage image e)
    | .ok reference =>
      if reference.isAllowed then .ok () else .error (.disallowedImage image reference.fullPath)

/-- Checks that a workflow can be run: its tool can be obtained and its image may be
used. -/
def validate (w : Workflow) : Except Error Unit := do
  let _ ← w.adapter.install.strategy.mapError (Error.install w.adapter.tool)
  validateImage w.image

/-- The commands that are written for some commands are read as those. -/
theorem commandsOf_document (index : Nat) (cs : List InitCommand) :
    commandsOf index (cs.map InitCommand.document) = .ok cs := by
  induction cs generalizing index with
  | nil => rfl
  | cons c cs ih => simp [commandsOf, InitCommand.ofDocument_document, ih, Except.map]

/-- What is written for a workflow is read as that workflow. -/
theorem ofDocument_document (w : Workflow) : ofDocument w.document = .ok w := by
  obtain ⟨⟨tool, install⟩, image, env, annotations, cs⟩ := w
  cases tool <;> simp [ofDocument, document, Document.adapters, commandsOf_document] <;> rfl

end Workflow

end Groundwork
