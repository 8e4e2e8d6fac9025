/-
What jobs report: that they started, and how they ended. The end of a job is also
told to people, in a comment.
-/
import Groundwork.Job.Status
import Groundwork.Json.Record

set_option autoImplicit false

namespace Groundwork.Report

/-- The report that a job started. -/
structure Started where
  checkUrl : String
  checkName : String
deriving DecidableEq, Repr

/-- The report that a job ended. -/
structure Finished where
  checkUrl : String
  checkName : String
  status : Job.Status
  output : String := ""
  error : String := ""
  /-- Where the result is told; nowhere if this is empty. -/
  commentsUrl : String := ""
  command : String
  projectDir : String
  projectWorkspace : String := ""
deriving DecidableEq, Repr

/-- The key of a check among those that finished. -/
def Finished.key (r : Finished) : String :=
  r.checkUrl ++ "/" ++ r.checkName

/-! ## As they are sent -/

/-- Reads the report that a job started. -/
def Started.ofJson? (v : Json) : Option Started := do
  let fs ← v.fields? ["checkUrl", "checkName"]
  return {
    checkUrl := ← fs.required "checkUrl" Json.string?
    checkName := ← fs.required "checkName" Json.string? }

/-- Reads the report that a job ended. -/
def Finished.ofJson? (v : Json) : Option Finished := do
  let fs ← v.fields? ["checkUrl", "checkName", "status", "output", "error", "commentsUrl", "command",
    "projectDir", "projectWorkspace"]
  return {
    checkUrl := ← fs.required "checkUrl" Json.string?
    checkName := ← fs.required "checkName" Json.string?
    status := ← fs.required "status" Job.Status.ofJson?
    output := ← fs.defaulted "output" Json.string? ""
    error := ← fs.defaulted "error" Json.string? ""
    commentsUrl := ← fs.defaulted "commentsUrl" Json.string? ""
    command := ← fs.required "command" Json.string?
    projectDir := ← fs.required "projectDir" Json.string?
    projectWorkspace := ← fs.defaulted "projectWorkspace" Json.string? "" }

/-- Writes the report that a job ended. -/
def Finished.toJson (r : Finished) : Json :=
  .object [
    ("checkUrl", .string r.checkUrl),
    ("checkName", .string r.checkName),
    ("status", .string r.status.wire),
    ("output", .string r.output),
    ("error", .string r.error),
    ("commentsUrl", .string r.commentsUrl),
    ("command", .string r.command),
    ("projectDir", .string r.projectDir),
    ("projectWorkspace", .string r.projectWorkspace)]

/-- What is written for the end of a job is read as that. -/
theorem Finished.ofJson?_toJson (r : Finished) : Finished.ofJson? r.toJson = some r := by
  cases r with
  | mk _ _ status => cases status <;> rfl

/-! ## As they are told -/

/-- A text between fences, unless it is empty; `head` and `tag` stand before it. -/
def fenced (head tag s : String) : String :=
  if s.isEmpty then "" else head ++ "```" ++ tag ++ "\n" ++ s ++ "\n```\n"

/-- The comment that tells how a job ended. -/
def Finished.comment (r : Finished) : String :=
  "Ran " ++ r.command ++ " for " ++ r.projectDir ++ " " ++ r.projectWorkspace
    ++ "\n\nStatus: " ++ r.status.display
    ++ "\n\n<details><summary>Show Output</summary>\n\n"
    ++ fenced "" "diff" r.output
    ++ fenced "Error:\n" "" r.error
    ++ "</details>"

end Groundwork.Report
