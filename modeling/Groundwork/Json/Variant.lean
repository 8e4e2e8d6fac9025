/-
Choices written in JSON: the name of the choice as a string, or an object with
that name as its only member and `null` under it.
-/
import Groundwork.Json.Basic

set_option autoImplicit false

namespace Groundwork.Json

/-- The name of the choice that a value writes. -/
def choice? : Json → Option String
  | .string s => some s
  | .object [(name, .null)] => some name
  | _ => none

end Groundwork.Json
