/-
Reading globs. Two stars between slashes, or between a slash and an end, take in any
number of directories; anywhere else they are two stars.
-/
import Groundwork.Glob.Basic

set_option autoImplicit false

namespace Groundwork.Glob

/-- A group that is not closed yet. -/
structure OpenGroup where
  /-- The tokens before it, last one first. -/
  before : List Token
  /-- The alternatives before the present one, last one first. -/
  branches : List (List Token) := []

/-- What is read so far. -/
structure Draft where
  /-- The character read last. -/
  last : Option Char := none
  /-- The tokens of the present alternative, last one first. -/
  tokens : List Token := []
  /-- The groups that are open, innermost first. -/
  groups : List OpenGroup := []

namespace Draft

/-- Adds a token that ends with a character. -/
def push (d : Draft) (t : Token) (last : Char) : Draft :=
  { d with tokens := t :: d.tokens, last := some last }

/-- Opens a group. -/
def openGroup (d : Draft) : Draft :=
  { last := some '\x7b', tokens := [], groups := ⟨d.tokens, []⟩ :: d.groups }

/-- Goes on to the next alternative, or adds a comma outside of groups. -/
def comma (d : Draft) : Draft :=
  match d.groups with
  | [] => d.push (.literal ',') ','
  | g :: gs =>
    { last := some ',', tokens := [],
      groups := { g with branches := d.tokens.reverse :: g.branches } :: gs }

/-- Closes the innermost group. -/
def closeGroup (d : Draft) : Except Error Draft :=
  match d.groups with
  | [] => .error .unopenedGroup
  | g :: gs =>
    let branches := (d.tokens.reverse :: g.branches).reverse
    .ok { last := some '\x7d', tokens := .group branches :: g.before, groups := gs }

/-- The tokens with the last one, the slash before two stars, replaced. After another
token for any depth the two stars say nothing new. -/
def replaceSlash (t : Token) : List Token → List Token
  | .anyDepthStart :: ts => .anyDepthStart :: ts
  | .anyDepthEnd :: ts => .anyDepthEnd :: ts
  | _ :: ts => t :: ts
  | [] => [t]

/-- Adds two stars that take in any depth, if they do before a next character. -/
def anyDepth? (d : Draft) (next : Option Char) : Option Draft :=
  if d.tokens.isEmpty then
    if next = none ∨ next = some '/' then some { d with tokens := [.anyDepthStart] } else none
  else if d.last = some '/'
      ∨ (!d.groups.isEmpty ∧ (d.last = some ',' ∨ d.last = some '\x7b')) then
    if next = some '/' then some { d with tokens := replaceSlash .anyDepthBetween d.tokens }
    else if next = none ∨ (!d.groups.isEmpty ∧ (next = some ',' ∨ next = some '\x7d')) then
      some { d with tokens := replaceSlash .anyDepthEnd d.tokens }
    else none
  else none

/-- The tokens, if no group is open. -/
def finish (d : Draft) : Except Error (List Token) :=
  if d.groups.isEmpty then .ok d.tokens.reverse else .error .unclosedGroup

end Draft

/-- The ranges of a class, last one first, with the last one going on to a character. -/
def extendRange (c : Char) : List (Char × Char) → Except Error (List (Char × Char))
  | [] => .ok [(c, c)]
  | (first, _) :: ranges =>
    if c < first then .error (.invalidRange first c) else .ok ((first, c) :: ranges)

mutual

/-- Reads the rest of a glob. -/
def read (d : Draft) : List Char → Except Error (List Token)
  | [] => d.finish
  | '?' :: rest => read (d.push .any '?') rest
  | '*' :: '*' :: rest =>
    match d.anyDepth? rest.head? with
    | none => read ((d.push .star '*').push .star '*') rest
    | some d =>
      match rest with
      | '/' :: rest => read { d with last := some '/' } rest
      -- Only a slash belongs to the token; the end of an alternative does not.
      | rest => read { d with last := some '*' } rest
  | '*' :: rest => read (d.push .star '*') rest
  | '[' :: '!' :: rest => readClass d true [] false rest
  | '[' :: '^' :: rest => readClass d true [] false rest
  | '[' :: rest => readClass d false [] false rest
  | '\x7b' :: rest => read d.openGroup rest
  | '\x7d' :: rest =>
    match d.closeGroup with
    | .error e => .error e
    | .ok d => read d rest
  | ',' :: rest => read d.comma rest
  | '\\' :: c :: rest => read (d.push (.literal c) c) rest
  | ['\\'] => .error .danglingEscape
  | c :: rest => read (d.push (.literal c) c) rest

/-- Reads the rest of a class, after some ranges, last one first; `dashed` after a dash
that may make a range. -/
def readClass (d : Draft) (negated : Bool) (ranges : List (Char × Char)) (dashed : Bool) :
    List Char → Except Error (List Token)
  | [] => .error .unclosedClass
  | ']' :: rest =>
    -- A bracket right at the start is a member of the class.
    if ranges.isEmpty then readClass d negated [(']', ']')] false rest
    else
      -- A dash right at the end is a member as well.
      let ranges := if dashed then ('-', '-') :: ranges else ranges
      read (d.push (.oneOf negated ranges.reverse) ']') rest
  | '-' :: rest =>
    if ranges.isEmpty then readClass d negated [('-', '-')] false rest
    else if dashed then
      match extendRange '-' ranges with
      | .error e => .error e
      | .ok ranges => readClass d negated ranges false rest
    else readClass d negated ranges true rest
  | c :: rest =>
    if dashed then
      match extendRange c ranges with
      | .error e => .error e
      | .ok ranges => readClass d negated ranges false rest
    else readClass d negated ((c, c) :: ranges) false rest

end

/-- Reads a glob. -/
def parse (s : String) : Except Error (List Token) :=
  read {} s.toList

end Groundwork.Glob
