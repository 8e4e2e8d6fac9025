/-
Answers to requests, and the errors that are answered with one.
-/
import Groundwork.Json.Printer

set_option autoImplicit false

namespace Groundwork.Http

/-- What an answer carries. -/
inductive Body where
  /-- Nothing, and no content type. -/
  | empty
  | text (s : String)
  | json (v : Json)
deriving Repr

/-- An answer. -/
structure Response where
  status : Nat
  body : Body := .empty
  /-- The methods that a route takes, when another was tried. -/
  allow : Option String := none
deriving Repr

/-- The content type of what an answer carries. -/
def Body.contentType : Body → Option String
  | empty => none
  | text _ => some "text/plain; charset=utf-8"
  | json _ => some "application/json"

/-- Why a request was not served. -/
inductive Refusal where
  /-- A bare status. -/
  | status (code : Nat)
  /-- A status with a message for the caller. -/
  | message (code : Nat) (text : String)
  /-- A fault of the service, with the outermost text of its causes. -/
  | fault (text : String)
deriving DecidableEq, Repr

/-- The answer that a refusal is given. Only "not found" says so in words. -/
def Refusal.response : Refusal → Response
  | status 404 => { status := 404, body := .text "Not found" }
  | status code => { status := code }
  | message code text => { status := code, body := .json (.object [("error", .string text)]) }
  | fault text => { status := 500, body := .text ("Something went wrong: " ++ text) }

end Groundwork.Http
