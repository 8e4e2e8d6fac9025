/-
Requests to other services, and what comes back. A request is sent only if it has a
target that can be sent.
-/
import Groundwork.Json.Printer
import Groundwork.Program

set_option autoImplicit false

namespace Groundwork.Http

/-! ## Targets -/

/-- Whether a character may stand in the path of a target. -/
def isTargetPathChar (c : Char) : Bool :=
  c.isAlphanum || 0x7f ≤ c.toNat || "!$%&'()*+,-./:;=@[\\]^_|~\"\x7b\x7d".toList.contains c

/-- Whether a character may stand in the query of a target. -/
def isTargetQueryChar (c : Char) : Bool :=
  c = '?' || c = '`' || (isTargetPathChar c && c ≠ '"')

/-- The most bytes that a target may have. -/
def maxTargetBytes : Nat := 65534

/-- The path and the query that a route is sent as, if it can be sent. What stands after
a `#` is not. -/
def target? (route : String) : Option String :=
  let sent := route.toList.takeWhile (· != '#')
  let (path, query) := sent.span (· != '?')
  if route.utf8ByteSize ≤ maxTargetBytes && sent.head? == some '/' && path.all isTargetPathChar
      && query.all isTargetQueryChar then
    some (String.ofList sent)
  else none

/-! ## Requests and replies -/

/-- What is done with a target. -/
inductive Method where
  | get
  | post
deriving DecidableEq, Repr

/-- The name of a method. -/
def Method.name : Method → String
  | get => "GET"
  | post => "POST"

/-- A request to another service. -/
structure Request where
  method : Method
  target : String
  /-- What is said besides, under names. -/
  headers : List (String × String) := []
  body : Option Json := none
deriving Repr

/-- What comes back from another service in the end. A client may be sent elsewhere on the
way or try again; what comes back is what it is left with. -/
inductive Reply where
  /-- An answer. -/
  | answer (status : Nat) (body : ByteArray)
  /-- Nothing, within the time that there is for an answer. -/
  | silence
  /-- Nothing, as there is no one. -/
  | unreachable

/-- A program that sends requests. -/
abbrev Wire (α : Type) : Type := Program Request (fun _ => Reply) α

/-- A program that sends requests and may fail. -/
abbrev WireWork (α : Type) : Type := Attempt Request (fun _ => Reply) α

/-- Sends a request. -/
def send (r : Request) : WireWork Reply :=
  ExceptT.lift (Program.ask r)

end Groundwork.Http
