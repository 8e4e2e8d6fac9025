/-
Adapters: a tool and how its binary is obtained. A workflow chooses exactly one tool
and exactly one way.
-/
import Groundwork.Tool
import Groundwork.Yaml.Tree
import Groundwork.Yaml.Typed

set_option autoImplicit false

namespace Groundwork

/-! ## Obtaining the binary -/

/-- What is written about obtaining the binary. -/
structure Install where
  version : Option String := none
  versionFrom : Option String := none
  skip : Bool := false
deriving DecidableEq, Repr

namespace Install

/-- How the binary is obtained. -/
inductive Strategy where
  /-- A given version is installed. -/
  | version (v : String)
  /-- The version that a file of the repository names is installed. -/
  | versionFrom (path : String)
  /-- The image has it. -/
  | skip
deriving DecidableEq, Repr

/-- Why there is no one way. -/
inductive Error where
  | missing
  | versionConflict
  | skipConflict
deriving DecidableEq, Repr

/-- What is said about it. -/
def Error.message : Error → String
  | missing => "version, versionFrom, or skipInstall must be set"
  | versionConflict => "version and versionFrom cannot be set at the same time"
  | skipConflict => "skipInstall cannot be combined with version or versionFrom"

/-- A text unless it is empty. -/
def given (s : Option String) : Option String :=
  s.filter (· ≠ "")

/-- The one way that is written. Empty texts do not count. -/
def strategy (i : Install) : Except Error Strategy :=
  match given i.version, given i.versionFrom, i.skip with
  | some _, some _, _ => .error .versionConflict
  | some _, none, true | none, some _, true => .error .skipConflict
  | some v, none, false => .ok (.version v)
  | none, some path, false => .ok (.versionFrom path)
  | none, none, true => .ok .skip
  | none, none, false => .error .missing

/-- Reads what is written. -/
def read (d : Yaml.Document) (node : Yaml.Node) : Except Yaml.Error Install := do
  let fs ← d.fields ["version", "versionFrom", "skipInstall"] node
  return {
    version := ← d.field fs "version" none (Yaml.Document.option Yaml.Document.text)
    versionFrom := ← d.field fs "versionFrom" none (Yaml.Document.option Yaml.Document.text)
    skip := ← d.field fs "skipInstall" false Yaml.Document.flag }

/-- Writes it. -/
def tree (i : Install) : Yaml.Tree :=
  .record <| Yaml.Tree.optionField "version" i.version
    ++ Yaml.Tree.optionField "versionFrom" i.versionFrom
    ++ Yaml.Tree.flagField "skipInstall" i.skip

end Install

/-! ## Choosing the tool -/

/-- A tool with the way to obtain it. -/
structure Adapter where
  tool : Tool
  install : Install
deriving DecidableEq, Repr

namespace Adapter

/-- Why there is no one tool. -/
inductive Error where
  | missing
  | several (tools : List Tool)
deriving DecidableEq, Repr

/-- What is said about it. -/
def Error.message : Error → String
  | missing => "no adapter set, must be one of terraform, helmfile or pulumi"
  | several tools =>
    "multiple adapters set (" ++ ", ".intercalate (tools.map Tool.name)
      ++ "), must be only one of terraform, helmfile or pulumi"

/-- The one adapter that is set. -/
def select (adapters : List Adapter) : Except Error Adapter :=
  match adapters with
  | [] => .error .missing
  | [a] => .ok a
  | as => .error (.several (as.map (·.tool)))

end Adapter

end Groundwork
