/-
Names of jobs. A name is put together from the command, the repository and the
directory, made fit for a scheduler's names, and cut so that a random ending can
follow it.
-/
import Groundwork.Command
import Groundwork.Text.LowerCase

set_option autoImplicit false

namespace Groundwork.Job

/-- The character that stands in a name for another. -/
def nameChar (c : Char) : Char :=
  if c = '/' ∨ c = '_' then '-' else c

/-- A text without slashes and underscores. -/
def dashed (s : String) : String :=
  String.ofList (s.toList.map nameChar)

/-- The most bytes that a name may have before its random ending. -/
def maxNameBytes : Nat := 47

/-- The bytes that a text takes. -/
def byteLength : List Char → Nat
  | [] => 0
  | c :: rest => c.utf8Size + byteLength rest

/-- The longest start of a text that takes no more than `n` bytes. -/
def takeBytes : Nat → List Char → List Char
  | _, [] => []
  | n, c :: rest => if c.utf8Size ≤ n then c :: takeBytes (n - c.utf8Size) rest else []

/-- A text without the characters at its end that hold. -/
def trimEnd (holds : Char → Bool) (s : List Char) : List Char :=
  (s.reverse.dropWhile holds).reverse

/-- A text without slashes at either end. -/
def trimSlashes (s : List Char) : List Char :=
  trimEnd (· == '/') (s.dropWhile (· == '/'))

/-- The name before it is cut. -/
def fullName (command : Command) (repo dir : String) : List Char :=
  let dir := trimSlashes dir.toList
  let start := "turnip-".toList ++ command.word.toList ++ ['-'] ++ Text.lowerCase repo.toList ++ ['-']
  let tail := if dir = [] ∨ dir = ['.'] then [] else Text.lowerCase dir ++ ['-']
  (start ++ tail).map nameChar

/-- A name as it is if it fits, else its start with one dash for those it ends in. -/
def cutName (name : List Char) : List Char :=
  if byteLength name ≤ maxNameBytes then name
  else trimEnd (· == '-') (takeBytes (maxNameBytes - 1) name) ++ ['-']

/-- The name from which a scheduler makes that of a job. -/
def generateName (command : Command) (repo dir : String) : String :=
  String.ofList (cutName (fullName command repo dir))

end Groundwork.Job
