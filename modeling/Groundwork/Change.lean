/-
Changed files, as pull requests list them.
-/
import Groundwork.Json.Record

set_option autoImplicit false

namespace Groundwork

/-- A file that a pull request changes. -/
inductive Change where
  | added (path : String)
  | modified (path : String)
  | renamed (oldPath newPath : String)
  | deleted (oldPath : String)
deriving DecidableEq, Repr

namespace Change

/-- The path that counts: the new one, unless there is none. -/
def path : Change → String
  | added path | modified path => path
  | renamed _ newPath => newPath
  | deleted oldPath => oldPath

/-- Whether the file is gone. -/
def isDeletion : Change → Bool
  | deleted _ => true
  | _ => false

/-- Writes a change, under the name of its kind. -/
def toJson : Change → Json
  | added path => .object [("status", .string "added"), ("path", .string path)]
  | modified path => .object [("status", .string "modified"), ("path", .string path)]
  | renamed oldPath newPath =>
    .object [("status", .string "renamed"), ("old_path", .string oldPath),
      ("new_path", .string newPath)]
  | deleted oldPath => .object [("status", .string "deleted"), ("old_path", .string oldPath)]

/-- Reads what a change of a kind holds. -/
def ofKind? (kind : String) (v : Json) : Option Change :=
  match kind with
  | "added" => do
    let fs ← v.fields? ["path"]
    return added (← fs.required "path" Json.string?)
  | "modified" => do
    let fs ← v.fields? ["path"]
    return modified (← fs.required "path" Json.string?)
  | "renamed" => do
    let fs ← v.fields? ["old_path", "new_path"]
    return renamed (← fs.required "old_path" Json.string?) (← fs.required "new_path" Json.string?)
  | "deleted" => do
    let fs ← v.fields? ["old_path"]
    return deleted (← fs.required "old_path" Json.string?)
  | _ => none

/-- Reads a change: an object that names its kind, or an array that starts with it. -/
def ofJson? : Json → Option Change
  | .object ms =>
    match ms.filter (·.1 == "status") with
    | [(_, .string kind)] => ofKind? kind (.object (ms.filter (·.1 != "status")))
    | _ => none
  | .array (.string kind :: rest) => ofKind? kind (.array rest)
  | _ => none

/-- What is written for a change is read as that change. -/
theorem ofJson?_toJson (c : Change) : ofJson? c.toJson = some c := by
  cases c <;> rfl

end Change

end Groundwork
