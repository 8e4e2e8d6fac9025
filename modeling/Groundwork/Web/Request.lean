/-
Requests that the service is sent.
-/
set_option autoImplicit false

namespace Groundwork.Web

/-- A request that the service is sent. -/
structure Request where
  method : String
  /-- The path, and the query after it. -/
  target : String
  headers : List (String × String) := []
  body : ByteArray := .empty

namespace Request

/-- Whether a character belongs to the path of a target, if those before it do. -/
def isPathChar (c : Char) : Bool :=
  c ≠ '?' ∧ c ≠ '#'

/-- The path alone. -/
def path (r : Request) : String :=
  String.ofList (r.target.toList.takeWhile isPathChar)

/-- The request with what is made of its path for the path. -/
def mapPath (f : List Char → List Char) (r : Request) : Request :=
  let (path, query) := r.target.toList.span isPathChar
  { r with target := String.ofList (f path ++ query) }

/-- A path without the slashes at its end. One of slashes only is the root. -/
def trimPath (path : List Char) : List Char :=
  match (path.reverse.dropWhile (· = '/')).reverse with
  | [] => if path.isEmpty then [] else ['/']
  | kept => kept

/-- The request with no slashes at the end of its path. -/
def trimmed (r : Request) : Request :=
  r.mapPath trimPath

/-- Whether a character can be read in a header: it is a printable one of ASCII. -/
def isHeaderChar (c : Char) : Bool :=
  (0x20 ≤ c.toNat && c.toNat < 0x7f) || c = '\t'

/-- The first value of a header, if it can be read. The case of letters in the name does
not matter. -/
def header? (r : Request) (name : String) : Option String :=
  ((r.headers.find? fun h => h.1.map Char.toLower == name.map Char.toLower).map (·.2)).filter
    (·.toList.all isHeaderChar)

/-- The most bytes that a body may have. -/
def maxBody : Nat := 2 * 1024 * 1024

/-- Whether the body is more than the service reads. -/
def isTooLarge (r : Request) : Bool :=
  maxBody < r.body.size

end Request

end Groundwork.Web
