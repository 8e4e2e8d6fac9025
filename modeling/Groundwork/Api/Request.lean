/-
Requests to run a command for one project, made by programs and not by people.
-/
import Groundwork.Json.Record

set_option autoImplicit false

namespace Groundwork.Api

/-- A request for one project at a ref. -/
structure Request where
  /-- The repository, as people write it. -/
  repo : String
  ref : String
  dir : String
  workspace : String := ""
  environment : String := ""
  stack : String := ""
  extraArgs : Option String := none
deriving DecidableEq, Repr

namespace Request

/-- The workspaces that are asked for, of whatever kind; the default one if none is
named. -/
def workspaceKeys (r : Request) : List String :=
  match [r.workspace, r.environment, r.stack].filter (· ≠ "") with
  | [] => [""]
  | keys => keys

/-- Reads a request. -/
def ofJson? (v : Json) : Option Request := do
  let fs ← v.fields? ["repo", "ref", "dir", "workspace", "environment", "stack", "extra_args"]
  return {
    repo := ← fs.required "repo" Json.string?
    ref := ← fs.required "ref" Json.string?
    dir := ← fs.required "dir" Json.string?
    workspace := ← fs.defaulted "workspace" Json.string? ""
    environment := ← fs.defaulted "environment" Json.string? ""
    stack := ← fs.defaulted "stack" Json.string? ""
    extraArgs := ← fs.optional "extra_args" Json.string? }

/-- Writes a request. -/
def toJson (r : Request) : Json :=
  .object [
    ("repo", .string r.repo),
    ("ref", .string r.ref),
    ("dir", .string r.dir),
    ("workspace", .string r.workspace),
    ("environment", .string r.environment),
    ("stack", .string r.stack),
    ("extra_args", (r.extraArgs.map Json.string).getD .null)]

/-- What is written for a request is read as that request. -/
theorem ofJson?_toJson (r : Request) : ofJson? r.toJson = some r := by
  cases r with
  | mk _ _ _ _ _ _ extraArgs => cases extraArgs <;> rfl

end Request

end Groundwork.Api
