/-
The host of the repositories, as its REST interface shows it. Each of the calls that
the bot makes becomes one request, but for the list of files, which comes in pages.
-/
import Groundwork.Bytes.Base64
import Groundwork.Event
import Groundwork.Http.Request
import Groundwork.Service
import Groundwork.Url.Form

set_option autoImplicit false

namespace Groundwork.Github

open Http (Wire WireWork)

/-! ## One request -/

/-- The value that the body of an answer starts with. What follows it is not looked at. -/
def bodyJson? (body : ByteArray) : Option Json :=
  (Json.ofStart? body.data.toList).map (·.1)

/-- Sends a request and reads the answer, if it is a success. `what` says what for. -/
def exchange {α : Type} (what : String) (method : Http.Method) (route : String)
    (body : Option Json) (read : Json → Option α) : WireWork α := do
  let failed : Failure := ⟨"Failed to " ++ what, []⟩
  let some target := Http.target? route | throw failed
  match ← Http.send { method, target, body } with
  | .answer status bytes =>
    -- The client has followed and tried again what it could; a redirect or an error that it is
    -- left with fails.
    if 200 ≤ status && status < 300 then
      match (bodyJson? bytes).bind read with
      | some value => return value
      | none => throw failed
    else throw failed
  | .silence => throw ⟨"Timed out trying to " ++ what, []⟩
  | .unreachable => throw failed

/-- Gets what is at a route. -/
def get {α : Type} (what route : String) (fields : List (String × String))
    (read : Json → Option α) : WireWork α :=
  exchange what .get (Url.Form.addTo route fields) none read

/-- The route of an address that came from elsewhere. -/
def routeOf (url : String) : WireWork String :=
  match Url.routeOf? url with
  | some route => return route
  | none => throw ⟨Url.invalidMessage url, []⟩

/-- Posts a value to an address. Whatever value is answered does. -/
def post (what url : String) (body : Json) : WireWork Unit := do
  exchange what .post (← routeOf url) (some body) fun v => if v.isReadable then some () else none

/-! ## Files -/

/-- A file as it is sent: its bytes in base64, and the word for that. -/
structure Content where
  content : String
  encoding : String
deriving DecidableEq, Repr

/-- Reads a file as it is sent. -/
def Content.ofJson? (v : Json) : Option Content := do
  let fs ← v.fields? ["content", "encoding"]
  return {
    content := ← fs.required "content" Json.string?
    encoding := ← fs.defaulted "encoding" Json.string? "" }

/-- The bytes of a file that was sent; line breaks among them do not count. -/
def Content.decode (c : Content) (path : String) : Except Failure ByteArray :=
  if c.encoding ≠ "" ∧ c.encoding ≠ "base64" then
    .error ⟨"Unsupported content encoding " ++ c.encoding, []⟩
  else
    let text := c.content.toList.filter fun ch => ch ≠ '\n' ∧ ch ≠ '\r'
    match Base64.decode? (String.ofList text) with
    | some bytes => .ok bytes
    | none => .error ⟨"Failed to decode " ++ path, []⟩

/-- The bytes of a file at a ref. -/
def fetchFile (repo : Repository) (path ref : String) : WireWork ByteArray := do
  let inside := String.ofList (path.toList.dropWhile (· == '/'))
  let content ← get ("fetch " ++ path ++ " from " ++ repo.fullName ++ "@" ++ ref)
    ("/repos/" ++ repo.fullName ++ "/contents/" ++ inside) [("ref", ref)] Content.ofJson?
  liftExcept (content.decode path)
where
  /-- An outcome as a program that has it. -/
  liftExcept {α : Type} (r : Except Failure α) : WireWork α := ExceptT.mk (pure r)

/-! ## Changed files -/

/-- The change that a file of a pull request is. A copy is a new file, and a renamed
file without its old name is a modified one. -/
def changeOf (status filename : String) (previous : Option String) : Change :=
  match status, previous with
  | "removed", _ => .deleted filename
  | "added", _ | "copied", _ => .added filename
  | "renamed", some old => .renamed old filename
  | _, _ => .modified filename

/-- Reads a file of a pull request. -/
def changeOfJson? (v : Json) : Option Change := do
  let fs ← v.fields? ["filename", "status", "previous_filename"]
  return changeOf (← fs.required "status" Json.string?) (← fs.required "filename" Json.string?)
    (← fs.optional "previous_filename" Json.string?)

/-- Reads the files of a page. -/
def pageOfJson? : Json → Option (List Change)
  | .array vs => vs.mapM changeOfJson?
  | _ => none

/-- The most files of a page. -/
def pageSize : Nat := 100

/-- The most pages that are there. -/
def maxPages : Nat := 30

/-- The files on a page of those that a pull request changes. -/
def filePage (repo : Repository) (number page : Nat) : WireWork (List Change) :=
  get ("list files of " ++ repo.fullName ++ "#" ++ toString number)
    ("/repos/" ++ repo.fullName ++ "/pulls/" ++ toString number ++ "/files")
    [("per_page", toString pageSize), ("page", toString page)] pageOfJson?

/-- The files on a page and those after it, of which at most `left` are asked for. A page
that is not full is the last. -/
def filesFrom (repo : Repository) (number : Nat) (page : Nat) : Nat → WireWork (List Change)
  | 0 => return []
  | left + 1 => do
    let files ← filePage repo number page
    -- A full page may be the last one: only the next one tells.
    if files.length < pageSize then return files
    return files ++ (← filesFrom repo number (page + 1) left)

/-- The files that a pull request changes. -/
def listFiles (repo : Repository) (number : Nat) : WireWork (List Change) :=
  filesFrom repo number 1 maxPages

/-! ## Pull requests and commits -/

/-- Reads a pull request. -/
def pullRequestOfJson? (v : Json) : Option PullRequest :=
  (Event.pullRequestShape.read? v).map Event.pullRequestOf

/-- The pull request at an address. -/
def getPullRequest (url : String) : WireWork PullRequest := do
  get ("fetch pull request " ++ url) (← routeOf url) [] pullRequestOfJson?

/-- Reads a commit. -/
def commitOfJson? (v : Json) : Option Commit := do
  let fs ← v.fields? ["sha", "comments_url"]
  return {
    sha := ← fs.required "sha" Json.string?
    commentsUrl := ← fs.required "comments_url" Json.string? }

/-- The commit that a ref stands for. -/
def getCommit (repo : Repository) (ref : String) : WireWork Commit :=
  get ("fetch commit " ++ repo.fullName ++ "@" ++ ref)
    ("/repos/" ++ repo.fullName ++ "/commits/" ++ ref) [] commitOfJson?

/-! ## What is posted -/

/-- Posts a status of a commit. -/
def createStatus (url : String) (status : CommitStatus) : WireWork Unit :=
  post "create commit status" url status.toJson

/-- Posts a comment. -/
def createComment (url body : String) : WireWork Unit :=
  post "create comment" url (.object [("body", .string body)])

/-- Leaves a reaction on a comment. -/
def react (url : String) (reaction : Reaction) : WireWork Unit :=
  post "react to comment" url (.object [("content", .string reaction.content)])

end Groundwork.Github
