/-
Which projects changes are about. The rules of a project are globs for paths as they
are seen from its directory; a project without rules goes by one that takes in
everything below it.
-/
import Groundwork.Change
import Groundwork.Glob.Match
import Groundwork.Path
import Groundwork.Project

set_option autoImplicit false

namespace Groundwork

/-! ## Rules -/

/-- Why rules or paths cannot be used. -/
inductive Trigger.Error where
  | rule (rule : String) (e : Glob.Error)
  | relative (path dir : String)
deriving DecidableEq, Repr

/-- What is said about it. -/
def Trigger.Error.message : Trigger.Error → String
  | rule text e =>
    "invalid rule " ++ Text.quoted text ++ ": error parsing glob '" ++ text ++ "': " ++ e.message
  | relative path dir =>
    "can't make " ++ Text.quoted path ++ " relative to " ++ Text.quoted dir

/-- Rules, anchored at a directory, with the globs that they stand for. -/
structure Rules where
  rules : List String
  globs : List (List Glob.Token)
deriving Repr

namespace Rules

/-- The rule of projects without rules. -/
def default : String := "./**/*"

/-- A rule anchored at a directory: one that does not start from it or above it is
taken to start from it. -/
def anchor (rule : String) : String :=
  if "./".toList.isPrefixOf rule.toList || "../".toList.isPrefixOf rule.toList then rule
  else "./" ++ rule

/-- The globs of some rules; the first that is none counts. -/
def parseAll : List String → Except Trigger.Error (List (List Glob.Token))
  | [] => .ok []
  | rule :: rules =>
    match Glob.parse rule with
    | .error e => .error (.rule rule e)
    | .ok g => (parseAll rules).map (g :: ·)

/-- The rules that are declared. The engine that matches the globs also limits how deep and
how large they may get, and refuses rules that together go beyond. These limits are left
out: such rules are taken here. -/
def ofList (declared : List String) : Except Trigger.Error Rules :=
  let rules := if declared.isEmpty then [default] else declared.map anchor
  (parseAll rules).map fun globs => ⟨rules, globs⟩

/-- The rules of a project. -/
def ofProject (p : Project) : Except Trigger.Error Rules :=
  ofList p.whenModified

/-- Whether a path, as it is seen from the directory, falls under the rules. -/
def isMatch (r : Rules) (path : String) : Bool :=
  r.globs.any fun g => Glob.isMatch g path

/-- Whether a change falls under the rules of a directory. A path that cannot be seen
from the directory does not. -/
def matchesChange (r : Rules) (dir : String) (c : Change) : Bool :=
  match Path.relative? dir c.path with
  | some path => r.isMatch path
  | none => false

/-- Whether any of some changes falls under the rules of a directory. -/
def matchesAny (r : Rules) (dir : String) (cs : List Change) : Bool :=
  cs.any (r.matchesChange dir)

end Rules

/-! ## Projects -/

namespace Trigger

/-- Who asks for projects. -/
inductive Mode where
  /-- A pull request: only projects that it plots by itself. -/
  | auto
  /-- Someone: all projects. -/
  | explicit
deriving DecidableEq, Repr

/-- Whether some changes are changes of a project. Those of a project with a rule that
is no glob are not. -/
def isChanged (p : Project) (cs : List Change) : Bool :=
  match Rules.ofProject p with
  | .ok rules => rules.matchesAny p.dir cs
  | .error _ => false

/-- Whether a project is to be run for some changes. -/
def isTriggered (mode : Mode) (cs : List Change) (p : Project) : Bool :=
  (mode == .explicit || p.autoPlot) && isChanged p cs

/-- The projects that are to be run for some changes, in order and each once. -/
def projects (cs : List Change) (ps : List Project) (mode : Mode) : List Project :=
  (ps.filter (isTriggered mode cs)).eraseDups

end Trigger

end Groundwork
