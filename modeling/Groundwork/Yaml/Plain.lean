/-
What a plain scalar is taken for: nothing, a truth value, a number, or a text. Texts
that would be taken for anything else must be quoted.
-/
import Groundwork.Decimal

set_option autoImplicit false

namespace Groundwork.Yaml

/-- Whether a plain scalar is one of the spellings of null. -/
def isNull (s : String) : Bool :=
  s = "null" || s = "Null" || s = "NULL" || s = "~"

/-- The truth value that a plain scalar spells. -/
def bool? (s : String) : Option Bool :=
  if s = "true" || s = "True" || s = "TRUE" then some true
  else if s = "false" || s = "False" || s = "FALSE" then some false
  else none

/-- The value of a digit of some base, if it is one. -/
def digit? (base : Nat) (c : Char) : Option Nat :=
  let n :=
    if c.isDigit then some (c.toNat - '0'.toNat)
    else if c.isLower then some (c.toNat - 'a'.toNat + 10)
    else if c.isUpper then some (c.toNat - 'A'.toNat + 10)
    else none
  n.filter (· < base)

/-- The number that digits of some base write, at least one of them. -/
def number? (base : Nat) (ds : List Char) : Option Nat :=
  if ds.isEmpty then none else ds.foldlM (fun n c => (digit? base c).map (n * base + ·)) 0

/-- Whether a text is digits that start with a needless zero, with or without a
sign. -/
def hasNeedlessZero (s : List Char) : Bool :=
  let ds := match s with
    | '-' :: ds | '+' :: ds => ds
    | ds => ds
  1 < ds.length && ds.head? == some '0' && (ds.drop 1).all Char.isDigit

/-- The digits after the mark of another base than ten. -/
def based? : List Char → Option Nat
  | '0' :: 'x' :: ds => number? 16 ds
  | '0' :: 'o' :: ds => number? 8 ds
  | '0' :: 'b' :: ds => number? 2 ds
  | _ => none

/-- The natural number that a plain scalar writes. -/
def natural? (s : List Char) : Option Nat :=
  let unsigned := match s with
    | '+' :: rest => rest
    | rest => rest
  match based? unsigned with
  | some n => some n
  | none => if hasNeedlessZero s then none else number? 10 unsigned

/-- The size of the negative whole number that a plain scalar writes. -/
def negative? : List Char → Option Nat
  | '-' :: rest =>
    match based? rest with
    | some n => some n
    | none => if hasNeedlessZero rest then none else number? 10 rest
  | _ => none

/-- Whether a plain scalar writes a number with a point or an exponent, or one that is
infinite or none. -/
def isFraction (s : List Char) : Bool :=
  let unsigned := match s with
    | '+' :: rest => if rest.head? == some '+' || rest.head? == some '-' then none else some rest
    | rest => some rest
  let decimal := unsigned.bind fun u => match u with
    | '-' :: rest => Decimal.ofList? rest
    | rest => Decimal.ofList? rest
  [".inf", ".Inf", ".INF"].contains (String.ofList (unsigned.getD []))
    || ["-.inf", "-.Inf", "-.INF", ".nan", ".NaN", ".NAN"].contains (String.ofList s)
    || decimal.any fun d => !d.overflows

/-- Whether a text would not be read as itself if it were a plain scalar. -/
def needsQuotes (s : String) : Bool :=
  let cs := s.toList
  s = "" || isNull s || (bool? s).isSome || (natural? cs).any (· < 1 <<< 128)
    || (negative? cs).any (· ≤ 1 <<< 127) || hasNeedlessZero cs || isFraction cs

end Groundwork.Yaml
