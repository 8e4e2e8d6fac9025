/-
Queries as forms write them: names and values, joined by ampersands. A blank becomes a
plus sign, and all but letters, digits and four signs are percent encoded.
-/
import Groundwork.Url.Percent

set_option autoImplicit false

namespace Groundwork.Url.Form

/-- Whether a character is encoded in a form. -/
def inSet (c : Char) : Bool :=
  !(c.isAlphanum || c = '*' || c = '-' || c = '.' || c = '_')

/-- A text as a form has it. -/
def encode (s : String) : String :=
  String.ofList (s.toList.flatMap fun c => if c = ' ' then ['+'] else percentChar inSet c)

/-- A query with some values under their names. -/
def query (fields : List (String × String)) : String :=
  String.intercalate "&" (fields.map fun f => encode f.1 ++ "=" ++ encode f.2)

/-- A route with some values in its query, after those that it has. -/
def addTo (route : String) (fields : List (String × String)) : String :=
  if fields.isEmpty then route
  else route ++ (if route.toList.contains '?' then "&" else "?") ++ query fields

end Groundwork.Url.Form
