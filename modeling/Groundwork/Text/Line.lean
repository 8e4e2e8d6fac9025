/-
The first line of a text and the words on a line.
-/
import Groundwork.Text.Blank
import Groundwork.Text.Split

set_option autoImplicit false

namespace Groundwork.Text

/-- A line without the carriage return that ended it. -/
def dropLineReturn (line : List Char) : List Char :=
  if line.getLast? = some '\r' then line.dropLast else line

/-- The text before the first line feed, less one carriage return right before
it. A carriage return at the end of a text without line feed stays. -/
def firstLine (s : List Char) : List Char :=
  match splitFirst? '\n' s with
  | some (line, _) => dropLineReturn line
  | none => s

/-- The words of a text, given the letters of the word being read in reverse. -/
def wordsAfter (word : List Char) : List Char → List (List Char)
  | [] => if word.isEmpty then [] else [word.reverse]
  | c :: rest =>
    if isBlank c then
      if word.isEmpty then wordsAfter [] rest else word.reverse :: wordsAfter [] rest
    else wordsAfter (c :: word) rest

/-- The longest runs of characters without white space. -/
def words (s : List Char) : List (List Char) :=
  wordsAfter [] s

end Groundwork.Text
