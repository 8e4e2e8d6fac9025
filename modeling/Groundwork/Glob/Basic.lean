/-
Globs: patterns for paths. A glob is a sequence of tokens; a group holds alternatives,
each a sequence of its own.
-/
set_option autoImplicit false

namespace Groundwork.Glob

/-- A part of a glob. -/
inductive Token where
  /-- A character that stands for itself. -/
  | literal (c : Char)
  /-- One byte other than a slash: `?`. -/
  | any
  /-- Bytes other than slashes: `*`. -/
  | star
  /-- Any directories, at the start: `**` with the slash after it. -/
  | anyDepthStart
  /-- Everything below: `**` at the end, with the slash before it. -/
  | anyDepthEnd
  /-- Any directories in between: `**` with the slashes around it. -/
  | anyDepthBetween
  /-- One byte that is in a class, or that is not: `[…]`. -/
  | oneOf (negated : Bool) (ranges : List (Char × Char))
  /-- One of some alternatives. -/
  | group (branches : List (List Token))
deriving Repr, Inhabited

/-- Why a text is no glob. -/
inductive Error where
  | unclosedClass
  | invalidRange (first last : Char)
  | unopenedGroup
  | unclosedGroup
  | danglingEscape
deriving DecidableEq, Repr

/-- What is said about it. -/
def Error.message : Error → String
  | unclosedClass => "unclosed character class; missing ']'"
  | invalidRange first last =>
    "invalid range; '" ++ String.singleton first ++ "' > '" ++ String.singleton last ++ "'"
  | unopenedGroup =>
    "unopened alternate group; missing '\x7b' (maybe escape '\x7d' with '[\x7d]'?)"
  | unclosedGroup =>
    "unclosed alternate group; missing '\x7d' (maybe escape '\x7b' with '[\x7b]'?)"
  | danglingEscape => "dangling '\\'"

end Groundwork.Glob
