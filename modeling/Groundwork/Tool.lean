/-
The tools that can be driven, and their words: what they call their two commands,
the workspaces that a directory can have, and the switch that lets a project be
plotted for every pull request.
-/
import Groundwork.Command

set_option autoImplicit false

namespace Groundwork

/-- What a tool calls the things that one directory can be deployed to. -/
inductive WorkspaceKind where
  | workspace
  | environment
  | stack
deriving DecidableEq, Repr

/-- The word for a kind, which is also the name of its field and of its flag. -/
def WorkspaceKind.word : WorkspaceKind → String
  | workspace => "workspace"
  | environment => "environment"
  | stack => "stack"

/-- A tool. -/
inductive Tool where
  | terraform
  | helmfile
  | pulumi
deriving DecidableEq, Repr

namespace Tool

/-- The tools, in the order in which they are listed. -/
def all : List Tool := [terraform, helmfile, pulumi]

/-- The tool's name. -/
def name : Tool → String
  | terraform => "terraform"
  | helmfile => "helmfile"
  | pulumi => "pulumi"

/-- The tool's word for a command. -/
def commandWord : Tool → Command → String
  | terraform, .plot => "plan"
  | helmfile, .plot => "diff"
  | pulumi, .plot => "preview"
  | terraform, .lift | helmfile, .lift => "apply"
  | pulumi, .lift => "up"

/-- What the tool calls a workspace. -/
def workspaceKind : Tool → WorkspaceKind
  | terraform => .workspace
  | helmfile => .environment
  | pulumi => .stack

/-- The name of the field that lets a project be plotted for every pull request. -/
def autoPlotField : Tool → String
  | terraform => "autoPlan"
  | helmfile => "autoDiff"
  | pulumi => "autoPreview"

/-- Tools with the same name are the same. -/
theorem name_injective {s t : Tool} (h : s.name = t.name) : s = t := by
  cases s <;> cases t <;> first | rfl | exact absurd h (by decide)

/-- A tool has two words for the two commands. -/
theorem commandWord_injective {t : Tool} {c d : Command} (h : t.commandWord c = t.commandWord d) :
    c = d := by
  cases t <;> cases c <;> cases d <;> first | rfl | exact absurd h (by decide)

end Tool

end Groundwork
