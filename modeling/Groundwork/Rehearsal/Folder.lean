/-
Folders that are only described: the files in one, by their paths.
-/
import Groundwork.Text.Split

set_option autoImplicit false

namespace Groundwork.Rehearsal

/-- The files in a folder and those inside it, by their paths. -/
structure Folder where
  files : List (String × String) := []
deriving Repr

/-- What is at a place. -/
inductive Place where
  | file (content : String)
  | folder
  | nothing
deriving DecidableEq, Repr

namespace Folder

/-- The parts of a path. -/
def partsOf (path : String) : List (List Char) :=
  Text.splitAll '/' path.toList

/-- What is at a place, given by the names on the way to it. -/
def placeAt (f : Folder) (names : List (List Char)) : Place :=
  match f.files.find? fun file => partsOf file.1 == names with
  | some (_, content) => .file content
  | none => if names.isEmpty || f.files.any (fun file => names.isPrefixOf (partsOf file.1)) then .folder
      else .nothing

/-- Where a path leads to from a place. Every place on the way must be a folder. -/
def walk (f : Folder) (here : List (List Char)) : List (List Char) → Except String (List (List Char))
  | [] => .ok here
  | part :: rest =>
    match f.placeAt here with
    | .file _ => .error "Not a directory (os error 20)"
    | .nothing => .error "No such file or directory (os error 2)"
    | .folder =>
      if part = [] ∨ part = ['.'] then f.walk here rest
      else if part = ['.', '.'] then f.walk here.dropLast rest
      else f.walk (here ++ [part]) rest

/-- The content of a file, or why it cannot be read. -/
def read (f : Folder) (path : String) : Except String ByteArray := do
  if path.isEmpty then throw "No such file or directory (os error 2)"
  match f.placeAt (← f.walk [] (partsOf path)) with
  | .file content => return content.toUTF8
  | .folder => throw "Is a directory (os error 21)"
  | .nothing => throw "No such file or directory (os error 2)"

end Folder

end Groundwork.Rehearsal
