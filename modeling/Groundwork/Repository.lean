/-
Repositories: how they are named, where they are cloned from, and where the
statuses of their commits are posted.
-/
import Groundwork.Text.Pattern

set_option autoImplicit false

namespace Groundwork

/-- A repository as events name it. -/
structure Repository where
  fullName : String
  cloneUrl : String
deriving DecidableEq, Repr, Inhabited

namespace Repository

/-- The clone address of a repository that is known by its name only. -/
def defaultCloneUrl (fullName : String) : String :=
  "https://github.com/" ++ fullName ++ ".git"

/-- A repository that is known by its name only. -/
def ofFullName (fullName : String) : Repository :=
  ⟨fullName, defaultCloneUrl fullName⟩

/-- The part of the name before its first slash, nothing if there is none. -/
def owner (r : Repository) : String :=
  match Text.splitFirst? '/' r.fullName.toList with
  | some (owner, _) => String.ofList owner
  | none => ""

/-- The part of the name after its first slash, all of it if there is none. -/
def name (r : Repository) : String :=
  match Text.splitFirst? '/' r.fullName.toList with
  | some (_, name) => String.ofList name
  | none => r.fullName

/-- The route at which statuses of a commit are posted. -/
def statusUrl (r : Repository) (sha : String) : String :=
  "/repos/" ++ r.fullName ++ "/statuses/" ++ sha

/-! ## Names that people write -/

/-- Whether a character may stand in the name of an owner or a repository. -/
def isNameChar (c : Char) : Bool :=
  c.isAlphanum || c = '_' || c = '.' || c = '-'

/-- What people write for a repository: its owner and its name with a slash between them,
maybe the address of the host before them, and maybe `.git` and a slash after them. The
name is as short as it can be, so that `.git` is no part of it where it can be left out. -/
def spelling : List Text.Piece := [
  .option ["https://github.com/".toList, "http://github.com/".toList],
  .run .longest isNameChar,
  .text ['/'],
  .run .shortest isNameChar,
  .option [".git".toList],
  .option [['/']]]

/-- Reads the owner and the name of a repository. -/
def parse? (value : String) : Option (String × String) :=
  match Text.parts? spelling value.toList with
  | some [owner, name] => some (String.ofList owner, String.ofList name)
  | _ => none

end Repository

end Groundwork
