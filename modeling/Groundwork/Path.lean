/-
Paths as text, with slashes between their parts. A path is taken by its parts alone:
empty ones and dots do not count, and two dots take back the part before them.
-/
import Groundwork.Text.Split

set_option autoImplicit false

namespace Groundwork.Path

/-- The parts after some others, last one first. `none` if two dots lead above the
start. -/
def resolve (above : List (List Char)) : List (List Char) → Option (List (List Char))
  | [] => some above
  | part :: parts =>
    if part = [] ∨ part = ['.'] then resolve above parts
    else if part = ['.', '.'] then
      match above with
      -- What lies above the start has no name.
      | [] => none
      | _ :: above => resolve above parts
    else resolve (part :: above) parts

/-- The parts of a path. -/
def components (path : List Char) : Option (List (List Char)) :=
  (resolve [] (Text.splitAll '/' path)).map List.reverse

/-- Whether a path starts at the root. -/
def isAbsolute (path : List Char) : Bool :=
  path.head? = some '/'

/-- How many parts two paths share from their start. -/
def sharedCount : List (List Char) → List (List Char) → Nat
  | a :: as, b :: bs => if a = b then sharedCount as bs + 1 else 0
  | _, _ => 0

/-- The way from some parts to others: up to what they share, and down again. -/
def wayBetween (base target : List (List Char)) : List (List Char) :=
  let shared := sharedCount base target
  List.replicate (base.length - shared) ['.', '.'] ++ target.drop shared

/-- A way as text. One that does not start with two dots is given a dot to start
from. -/
def anchored (way : List (List Char)) : List Char :=
  if way = [] then ['.']
  else
    let text := Text.joinWith ['/'] way
    if ['.', '.'].isPrefixOf text then text else '.' :: '/' :: text

/-- A path as it is seen from a directory. Both start at the root or neither does. -/
def relative? (dir path : String) : Option String :=
  if isAbsolute dir.toList ≠ isAbsolute path.toList then none
  else
    match components dir.toList, components path.toList with
    | some base, some target => some (String.ofList (anchored (wayBetween base target)))
    | _, _ => none

end Groundwork.Path
