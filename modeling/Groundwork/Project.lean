/-
Projects: directories that are deployed by a workflow, each to one workspace.
-/
import Groundwork.Command
import Groundwork.Text.Quoted
import Groundwork.Workflow
import Groundwork.Yaml.Printer

set_option autoImplicit false

namespace Groundwork

/-- A directory with the workflow that deploys it. -/
structure Project where
  /-- The directory, as seen from the root of the repository. -/
  dir : String
  workspace : String := ""
  environment : String := ""
  stack : String := ""
  /-- Whether every pull request that changes the project plots it. -/
  autoPlot : Bool := false
  /-- The rules that say which changes are changes of the project. -/
  whenModified : List String := []
  env : Table String := .empty
  podAnnotations : Table String := .empty
  /-- The name under which the workflow is declared. -/
  workflowName : String
  workflow : Workflow
deriving DecidableEq, Repr

namespace Project

/-! ## Projects as they are written -/

/-- A project as it is written, on its own with its workflow in it. -/
structure Document where
  dir : String := ""
  stack : String := ""
  workspace : String := ""
  environment : String := ""
  autoPlan : Bool := false
  autoPreview : Bool := false
  autoDiff : Bool := false
  podAnnotations : Table String := .empty
  env : Table String := .empty
  whenModified : List String := []
  workflowName : String := ""
  workflow : Option Workflow.Document := none
deriving DecidableEq, Repr

namespace Document

/-- Reads a project as it is written. -/
def read (d : Yaml.Document) (node : Yaml.Node) : Except Yaml.Error Document := do
  let fs ← d.fields ["dir", "stack", "workspace", "environment", "autoPlan", "autoPreview",
    "autoDiff", "podAnnotations", "env", "whenModified", "workflow", "__loadedWorkflow"] node
  let table := Yaml.Document.table Yaml.Document.text
  return {
    dir := ← d.field fs "dir" "" Yaml.Document.text
    stack := ← d.field fs "stack" "" Yaml.Document.text
    workspace := ← d.field fs "workspace" "" Yaml.Document.text
    environment := ← d.field fs "environment" "" Yaml.Document.text
    autoPlan := ← d.field fs "autoPlan" false Yaml.Document.flag
    autoPreview := ← d.field fs "autoPreview" false Yaml.Document.flag
    autoDiff := ← d.field fs "autoDiff" false Yaml.Document.flag
    podAnnotations := ← d.field fs "podAnnotations" .empty table
    env := ← d.field fs "env" .empty table
    whenModified := ← d.field fs "whenModified" [] (Yaml.Document.list Yaml.Document.text)
    workflowName := ← d.field fs "workflow" "" Yaml.Document.text
    workflow := ← d.field fs "__loadedWorkflow" none
      (Yaml.Document.option Workflow.Document.read) }

/-- Writes a project. -/
def tree (p : Document) : Yaml.Tree :=
  .record <| [("dir", .text p.dir)] ++ Yaml.Tree.textField "stack" p.stack
    ++ Yaml.Tree.textField "workspace" p.workspace
    ++ Yaml.Tree.textField "environment" p.environment
    ++ Yaml.Tree.flagField "autoPlan" p.autoPlan
    ++ Yaml.Tree.flagField "autoPreview" p.autoPreview
    ++ Yaml.Tree.flagField "autoDiff" p.autoDiff
    ++ Yaml.Tree.tableField "podAnnotations" p.podAnnotations
    ++ Yaml.Tree.tableField "env" p.env
    ++ Yaml.Tree.listField "whenModified" (p.whenModified.map .text)
    ++ [("workflow", .text p.workflowName)]
    ++ p.workflow.toList.map fun w => ("__loadedWorkflow", w.tree)

/-- The switch of a tool. -/
def auto (p : Document) : Tool → Bool
  | .terraform => p.autoPlan
  | .helmfile => p.autoDiff
  | .pulumi => p.autoPreview

end Document

/-- Why a project cannot be used. -/
inductive Error where
  | workflowNotSet
  | unknownWorkflow (name : String)
  | workflowNotLoaded
  | absoluteDir
  | duplicate (kind : WorkspaceKind) (value : String)
  | workflow (name : String) (e : Workflow.Error)
deriving DecidableEq, Repr

/-- The texts of an error, its own and then those of what caused it. -/
def Error.chain : Error → List String
  | workflowNotSet => ["workflow not set"]
  | unknownWorkflow name => ["workflow " ++ name ++ " not found"]
  | workflowNotLoaded => ["workflow not loaded"]
  | absoluteDir => ["dir must be relative to the repository root"]
  | duplicate kind value =>
    ["declared more than once for " ++ kind.word ++ " " ++ Text.quoted value]
  | workflow name e => ("workflow " ++ name ++ ": " ++ e.message) :: e.chain

/-- What is said about an error. -/
def Error.message (e : Error) : String :=
  e.chain.headD ""

/-- Checks what can be checked without the workflow. -/
def Document.check (p : Document) : Except Error Unit :=
  if p.workflowName = "" then .error .workflowNotSet
  else if p.dir.toList.head? = some '/' then .error .absoluteDir
  else .ok ()

/-- The project that is written, with its workflow. Of the three switches, that of the
workflow's tool counts. -/
def bind (p : Document) (workflow : Workflow) : Project where
  dir := p.dir
  workspace := p.workspace
  environment := p.environment
  stack := p.stack
  autoPlot := p.auto workflow.adapter.tool
  whenModified := p.whenModified
  env := p.env
  podAnnotations := p.podAnnotations
  workflowName := p.workflowName
  workflow := workflow

/-- The tool that deploys a project. -/
def tool (p : Project) : Tool :=
  p.workflow.adapter.tool

/-- A project as it is to be written, with its workflow in it or without. -/
def document (p : Project) (embed : Bool) : Document where
  dir := p.dir
  stack := p.stack
  workspace := p.workspace
  environment := p.environment
  autoPlan := p.tool = .terraform && p.autoPlot
  autoPreview := p.tool = .pulumi && p.autoPlot
  autoDiff := p.tool = .helmfile && p.autoPlot
  podAnnotations := p.podAnnotations
  env := p.env
  whenModified := p.whenModified
  workflowName := p.workflowName
  workflow := if embed then some p.workflow.document else none

/-- What is written for a project is read as that project. -/
theorem bind_document (p : Project) (embed : Bool) : bind (p.document embed) p.workflow = p := by
  obtain ⟨_, _, _, _, _, _, _, _, _, ⟨⟨tool, _⟩, _, _, _, _⟩⟩ := p
  cases tool <;> simp [bind, document, Document.auto, Project.tool]

/-- A project written on its own, with its workflow in it: what a job is given. -/
def toYaml (p : Project) : String :=
  (p.document true).tree.print

/-! ## What identifies a project -/

/-- The name of the workspace of a kind. -/
def named (p : Project) : WorkspaceKind → String
  | .workspace => p.workspace
  | .environment => p.environment
  | .stack => p.stack

/-- The workspace that the project's tool deploys to; the empty one is the tool's
default. -/
def workspaceKey (p : Project) : String :=
  p.named p.tool.workspaceKind

/-- The name of a check: which tool does what, and where. -/
def checkContext (p : Project) (c : Command) : String :=
  "turnip/" ++ p.tool.name ++ "/" ++ p.tool.commandWord c ++ "/" ++ p.dir ++ "/" ++ p.workspaceKey

end Project

end Groundwork
