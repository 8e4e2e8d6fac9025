/-
Patterns: what a text has to look like from its start to its end, piece by piece. Some
pieces take the part of the text that they stand for.

A text may fit a pattern in more than one way. Each piece says which of its ways it would
rather have, and what a piece wishes counts before what those after it wish, as long as a
way is left for them.
-/
import Groundwork.Text.Split

set_option autoImplicit false

namespace Groundwork.Text

/-- How much of a run a piece would rather have. -/
inductive Reach where
  | longest
  | shortest
deriving DecidableEq, Repr

/-- A piece of a pattern. -/
inductive Piece where
  /-- A text as it is. -/
  | text (s : List Char)
  /-- One of some texts, rather an earlier one than a later one, and rather any than none. -/
  | option (texts : List (List Char))
  /-- Characters of a kind, one at least. They are taken. -/
  | run (reach : Reach) (kind : Char → Bool)

section

variable {β : Type}

/-- What `next` makes of a text without the first of some starts that leaves it anything
to go on with, or else of the text as it is. -/
def firstOption (next : List Char → Option β) (s : List Char) : List (List Char) → Option β
  | [] => next s
  | start :: starts =>
    match (dropStart? start s).bind next with
    | some b => some b
    | none => firstOption next s starts

/-- A run of characters of a kind at the start of a text, and what `next` makes of what
comes after it. -/
def firstRun (reach : Reach) (kind : Char → Bool) (next : List Char → Option β) :
    List Char → Option (List Char × β)
  | [] => none
  | c :: rest =>
    if kind c then
      match reach with
      | .longest =>
        match firstRun reach kind next rest with
        | some (run, b) => some (c :: run, b)
        | none => (next rest).map fun b => ([c], b)
      | .shortest =>
        match next rest with
        | some b => some ([c], b)
        | none => (firstRun reach kind next rest).map fun (run, b) => (c :: run, b)
    else none

end

/-- The parts that the pieces of a pattern take, if the whole text fits it. -/
def parts? : List Piece → List Char → Option (List (List Char))
  | [], s => if s.isEmpty then some [] else none
  | .text start :: pieces, s => (dropStart? start s).bind (parts? pieces)
  | .option starts :: pieces, s => firstOption (parts? pieces) s starts
  | .run reach kind :: pieces, s =>
    (firstRun reach kind (parts? pieces) s).map fun (run, parts) => run :: parts

end Groundwork.Text
