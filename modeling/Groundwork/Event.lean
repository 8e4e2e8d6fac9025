/-
Events that GitHub reports: what happens to pull requests and to comments on them.
Other events are told apart by their kinds only.
-/
import Groundwork.Event.Shape
import Groundwork.Json.Reader
import Groundwork.Json.Whole
import Groundwork.PullRequest

set_option autoImplicit false

namespace Groundwork

/-- A comment. -/
structure Comment where
  id : Nat
  body : String
  /-- Where reactions to it are posted. -/
  reactionsUrl : String
deriving DecidableEq, Repr

/-- An issue. -/
structure Issue where
  number : Nat
  /-- Where comments on it are posted. -/
  commentsUrl : String
  /-- The address of the pull request that it is, if it is one. -/
  pullRequestUrl : Option String
deriving DecidableEq, Repr

/-- An event about a pull request. -/
structure PullRequestEvent where
  action : String
  number : Nat
  pullRequest : PullRequest
  repository : Repository
deriving DecidableEq, Repr

/-- An event about a comment. -/
structure CommentEvent where
  action : String
  issue : Issue
  comment : Comment
  repository : Repository
deriving DecidableEq, Repr

/-- An event. -/
inductive Event where
  | pullRequest (e : PullRequestEvent)
  | comment (e : CommentEvent)
  | ping
  | other (kind : String)
deriving DecidableEq, Repr

namespace Event

/-- The kind of an event. -/
def kind : Event → String
  | pullRequest _ => "pull_request"
  | comment _ => "issue_comment"
  | ping => "ping"
  | other kind => kind

/-- Why an event cannot be understood. -/
inductive Error where
  /-- The payload is not what the kind asks for. -/
  | payload (kind : String)
  /-- The repository that it happened in has no full name. -/
  | namelessRepository (name : String)
deriving DecidableEq, Repr

/-- The texts of an error, its own and then those of what caused it. -/
def Error.chain : Error → List String
  | payload kind => ["Invalid " ++ kind ++ " payload", "unexpected value"]
  | namelessRepository name => ["repository " ++ name ++ " has no full name"]

/-- What is said about an error. -/
def Error.message (e : Error) : String :=
  e.chain.headD ""

/-! ## Taking parts from payloads -/

/-- The text of a field, empty if it is missing. -/
def textAt (v : Json) (name : String) : String :=
  ((v.get name).string?).getD ""

/-- The number in a field, zero if it is missing. -/
def numberAt (v : Json) (name : String) : Nat :=
  ((v.get name).nat? UInt64.size).getD 0

/-- The repository that a value describes, if it has a full name. -/
def repositoryOf? (v : Json) : Option Repository :=
  (v.get "full_name").string?.map fun fullName =>
    ⟨fullName, ((v.get "clone_url").string?).getD (Repository.defaultCloneUrl fullName)⟩

/-- The branch that a value describes. -/
def branchOf (v : Json) : Branch :=
  ⟨textAt v "ref", textAt v "sha", repositoryOf? (v.get "repo")⟩

/-- The pull request that a value describes. -/
def pullRequestOf (v : Json) : PullRequest where
  url := textAt v "url"
  number := numberAt v "number"
  head := branchOf (v.get "head")
  base := branchOf (v.get "base")
  commentsUrl := ((v.get "comments_url").string?).getD
    (PullRequest.defaultCommentsUrl (textAt v "url"))

/-- The issue that a value describes. -/
def issueOf (v : Json) : Issue where
  number := numberAt v "number"
  commentsUrl := textAt v "comments_url"
  pullRequestUrl := ((v.get "pull_request").get "url").string?

/-- Where reactions to a comment are posted. -/
def reactionsUrl (r : Repository) (id : Nat) : String :=
  "/repos/" ++ r.fullName ++ "/issues/comments/" ++ toString id ++ "/reactions"

/-- The comment that a value describes. -/
def commentOf (r : Repository) (v : Json) : Comment where
  id := numberAt v "id"
  body := textAt v "body"
  reactionsUrl := reactionsUrl r (numberAt v "id")

/-- An action, if it is one of those that matter. -/
def actionOf (known : List String) (v : Json) : String :=
  let action := textAt v "action"
  if known.contains action then action else "other"

/-! ## Reading -/

/-- The fields that every event can have. -/
def commonFields : List (String × Json.Shape) := [
  ("sender", .optional userShape), ("repository", .optional repositoryShape)]

/-- Reads a payload: what every event can have, and what an event of a kind says. -/
def readPayload? (shape : Json.Shape) (body : ByteArray) : Option (Json × Json) := do
  match ← Json.ofBytes? body.data.toList with
  | .object ms =>
    -- What every event can have is read first; the rest is held as a whole before the
    -- kind of the event is looked at, so that of members with one name the last counts.
    let names := commonFields.map (·.1)
    let common ← (Json.Shape.record commonFields).read? (.object (ms.filter (names.contains ·.1)))
    let rest := Json.object (ms.filter (!names.contains ·.1))
    if rest.isReadable then return (common, ← shape.read? rest.settled) else none
  | _ => none

/-- The repository that an event happened in; none if it happened in no repository. -/
def repositoryOf (common : Json) : Except Error (Option Repository) :=
  match common.get "repository" with
  | .null => .ok none
  | v =>
    match repositoryOf? v with
    | some r => .ok (some r)
    | none => .error (.namelessRepository (textAt v "name"))

/-- The event that a payload about a pull request describes. -/
def pullRequestEvent (r : Repository) (v : Json) : PullRequestEvent where
  action := actionOf ["opened", "synchronize", "reopened", "closed", "edited"] v
  number := numberAt v "number"
  pullRequest := pullRequestOf (v.get "pull_request")
  repository := r

/-- The event that a payload about a comment describes. -/
def commentEvent (r : Repository) (v : Json) : CommentEvent where
  action := actionOf commentActions v
  issue := issueOf (v.get "issue")
  comment := commentOf r (v.get "comment")
  repository := r

/-- Reads an event of a kind that is acted on. -/
def parseAs (kind : String) (shape : Json.Shape) (event : Repository → Json → Event)
    (body : ByteArray) : Except Error Event :=
  match readPayload? shape body with
  | none => .error (.payload kind)
  | some (common, v) => do
    match ← repositoryOf common with
    | none => return other kind
    | some r => return event r v

/-- Reads an event. -/
def parse (kind : String) (body : ByteArray) : Except Error Event :=
  match kind with
  | "pull_request" => parseAs kind pullRequestPayload (fun r v => pullRequest (pullRequestEvent r v)) body
  | "issue_comment" => parseAs kind commentPayload (fun r v => comment (commentEvent r v)) body
  | "ping" => .ok ping
  | kind => .ok (other kind)

end Event

end Groundwork
