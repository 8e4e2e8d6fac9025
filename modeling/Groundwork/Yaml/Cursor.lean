/-
A place in a text, with the line and the column that it is at.
-/
import Groundwork.Yaml.Character

set_option autoImplicit false

namespace Groundwork.Yaml

/-- A place in a text: what follows it, the characters before it, and its line and
column. -/
structure Cursor where
  rest : List Char
  index : Nat := 0
  line : Nat := 0
  column : Nat := 0

namespace Cursor

/-- The place `n` characters further on the same line. -/
def advance (c : Cursor) (n : Nat) : Cursor :=
  { c with rest := c.rest.drop n, index := c.index + n, column := c.column + n }

/-- The next character. -/
def head? (c : Cursor) : Option Char :=
  c.rest.head?

/-- Whether the text goes on with a character. -/
def at? (c : Cursor) (x : Char) : Bool :=
  c.rest.head? == some x

/-- Reads the longest run of characters with a property. -/
def takeWhile (c : Cursor) (p : Char → Bool) : List Char × Cursor :=
  let run := c.rest.takeWhile p
  (run, c.advance run.length)

/-- Passes over the longest run of characters with a property. -/
def skipWhile (c : Cursor) (p : Char → Bool) : Cursor :=
  (c.takeWhile p).2

/-- Reads the end of a line, if the text is there: a line feed for every kind of it
but the two separators, which stay. -/
def readBreak (c : Cursor) : List Char × Cursor :=
  let next (n : Nat) (rest : List Char) : Cursor := ⟨rest, c.index + n, c.line + 1, 0⟩
  match c.rest with
  | '\r' :: '\n' :: rest => (['\n'], next 2 rest)
  | '\u2028' :: rest => (['\u2028'], next 1 rest)
  | '\u2029' :: rest => (['\u2029'], next 1 rest)
  | x :: rest => if isBreak x then (['\n'], next 1 rest) else ([], c)
  | [] => ([], c)

/-- Passes over the end of a line, if the text is there. -/
def skipBreak (c : Cursor) : Cursor :=
  c.readBreak.2

/-- Whether three dashes or three dots stand alone at the start of a line here. -/
def atDocumentMark (c : Cursor) (x : Char) : Bool :=
  c.column == 0 && c.rest.take 3 == [x, x, x] && atGap (c.rest.drop 3)

end Cursor

end Groundwork.Yaml
