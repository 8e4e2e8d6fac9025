/-
The configuration of a repository: its workflows, and the projects that they deploy.

A configuration is read in two steps. `ofDocument` resolves what the parts name;
`validate` then checks that the workflows can be run and that no two projects are
the same. Each step stops at the first fault.
-/
import Groundwork.Project
import Groundwork.Yaml.Reader

set_option autoImplicit false

namespace Groundwork

/-- The configuration of a repository. -/
structure Config where
  version : String
  workflows : Table Workflow
  projects : List Project
deriving DecidableEq, Repr

namespace Config

/-- The one version that is understood. -/
def supportedVersion : String := "v1alpha1"

/-- Where the configuration stands in a repository. -/
def fileName : String := "turnip.yaml"

/-! ## Configurations as they are written -/

/-- A configuration as it is written. -/
structure Document where
  version : String := ""
  workflows : Table Workflow.Document := .empty
  projects : List Project.Document := []
deriving DecidableEq, Repr

/-- Reads a configuration as it is written. -/
def Document.read (d : Yaml.Document) (node : Yaml.Node) : Except Yaml.Error Document := do
  let fs ← d.fields ["version", "workflows", "projects"] node
  return {
    version := ← d.field fs "version" "" Yaml.Document.text
    workflows := ← d.field fs "workflows" .empty (Yaml.Document.table Workflow.Document.read)
    projects := ← d.field fs "projects" [] (Yaml.Document.list Project.Document.read) }

/-- Writes a configuration. -/
def Document.tree (c : Document) : Yaml.Tree :=
  .record [
    ("version", .text c.version),
    ("workflows", .record (c.workflows.entries.map fun e => (e.1, e.2.tree))),
    ("projects", .list (c.projects.map Project.Document.tree))]

/-- Why a configuration cannot be used. -/
inductive Error where
  | yaml (e : Yaml.Error)
  | version (found : String)
  | workflow (name : String) (e : Workflow.Error)
  | project (dir : String) (e : Project.Error)
deriving DecidableEq, Repr

/-- The texts of an error, its own and then those of what caused it. -/
def Error.chain : Error → List String
  | yaml e => ["invalid YAML: " ++ e.message, e.message]
  | version found =>
    ["unsupported version " ++ Text.quoted found ++ ", expected " ++ supportedVersion]
  | workflow name e => ("workflow " ++ name ++ ": " ++ e.message) :: e.chain
  | project dir e => ("project " ++ dir ++ ": " ++ e.message) :: e.chain

/-- What is said about an error. -/
def Error.message (e : Error) : String :=
  e.chain.headD ""

/-! ## Resolving what the parts name -/

/-- The workflow that a project names. -/
def resolve (workflows : Table Workflow) (p : Project.Document) : Except Project.Error Workflow := do
  p.check
  match workflows.find? p.workflowName with
  | some w => return w
  | none => throw (.unknownWorkflow p.workflowName)

/-- The projects that are written, each with the workflow that it names. -/
def bindAll (workflows : Table Workflow) : List Project.Document → Except Error (List Project)
  | [] => .ok []
  | p :: ps =>
    match resolve workflows p with
    | .error e => .error (.project p.dir e)
    | .ok w => (bindAll workflows ps).map (Project.bind p w :: ·)

/-- The configuration that is written, not yet validated. -/
def ofDocument (c : Document) : Except Error Config := do
  if c.version ≠ supportedVersion then throw (.version c.version)
  let workflows ← c.workflows.traverse fun name w => (Workflow.ofDocument w).mapError (.workflow name)
  let projects ← bindAll workflows c.projects
  return ⟨c.version, workflows, projects⟩

/-- A configuration as it is to be written. -/
def document (c : Config) : Document where
  version := c.version
  workflows := c.workflows.map Workflow.document
  projects := c.projects.map (·.document false)

/-! ## Validating -/

/-- Checks that every workflow can be run, in the order of their names. -/
def validateWorkflows : List (String × Workflow) → Except Error Unit
  | [] => .ok ()
  | (name, w) :: rest =>
    match w.validate with
    | .error e => .error (.workflow name e)
    | .ok () => validateWorkflows rest

/-- What tells projects apart: the directory and the workspace. -/
def identity (p : Project) : String × String :=
  (p.dir, p.workspaceKey)

/-- Checks that projects have workflows and that none is declared twice; `seen` holds
the identities of those before them. -/
def validateProjects (workflows : Table Workflow) (seen : List (String × String)) :
    List Project → Except Error Unit
  | [] => .ok ()
  | p :: ps =>
    if (workflows.find? p.workflowName).isNone then
      .error (.project p.dir (.unknownWorkflow p.workflowName))
    else if identity p ∈ seen then
      .error (.project p.dir (.duplicate p.tool.workspaceKind p.workspaceKey))
    else validateProjects workflows (identity p :: seen) ps

/-- Checks a configuration. -/
def validate (c : Config) : Except Error Unit := do
  if c.version ≠ supportedVersion then throw (.version c.version)
  validateWorkflows c.workflows.entries
  validateProjects c.workflows [] c.projects

/-! ## Reading and writing -/

/-- Reads a YAML document of a given form. -/
def readYaml {α : Type} (read : Yaml.Document → Yaml.Node → Except Yaml.Error α)
    (bytes : ByteArray) : Except Error α :=
  (Yaml.Document.ofBytes bytes >>= Yaml.Document.readRoot read).mapError Error.yaml

/-- Reads a configuration without validating it. -/
def parse (bytes : ByteArray) : Except Error Config := do
  ofDocument (← readYaml Document.read bytes)

/-- Reads a configuration and validates it. -/
def load (bytes : ByteArray) : Except Error Config := do
  let c ← parse bytes
  c.validate
  return c

/-- Writes a configuration. -/
def toYaml (c : Config) : String :=
  c.document.tree.print

/-- The project in a directory whose workspace is one of some names. -/
def findProject? (c : Config) (dir : String) (keys : List String) : Option Project :=
  c.projects.find? fun p => p.dir == dir && keys.contains p.workspaceKey

end Config

/-! ## Projects on their own -/

/-- The workflow that is written inside a project, validated. -/
def Project.embedded (p : Project.Document) : Except Project.Error Workflow := do
  p.check
  match p.workflow with
  | none => throw .workflowNotLoaded
  | some doc =>
    (do let w ← Workflow.ofDocument doc; w.validate; return w).mapError (.workflow p.workflowName)

/-- The project that is written on its own. -/
def Project.ofDocument (p : Project.Document) : Except Config.Error Project :=
  match Project.embedded p with
  | .error e => .error (.project p.dir e)
  | .ok w => .ok (Project.bind p w)

/-- Reads a project written on its own. -/
def Project.ofYaml (bytes : ByteArray) : Except Config.Error Project := do
  Project.ofDocument (← Config.readYaml Project.Document.read bytes)

end Groundwork
