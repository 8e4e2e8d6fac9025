/-
Decimal numbers written with a point or an exponent, as far as it matters whether
they are numbers at all: a number too large for a double is none.
-/
set_option autoImplicit false

namespace Groundwork

/-- The number `digits * 10 ^ exponent`. -/
structure Decimal where
  digits : Nat
  exponent : Int
deriving DecidableEq, Repr

namespace Decimal

/-- The least number that is nearer to no double than to infinity: half a unit above
the largest one. -/
def infinityBound : Nat := (1 <<< 1024) - (1 <<< 970)

/-- Whether a number rounds to infinity. The powers of ten that are formed are no
larger than the answer needs. -/
def overflows (d : Decimal) : Bool :=
  if d.digits = 0 then false
  else if 0 ≤ d.exponent then
    400 < d.exponent || infinityBound ≤ d.digits * Nat.pow 10 d.exponent.toNat
  else
    let shift := (-d.exponent).toNat
    shift ≤ d.digits.log2 && infinityBound * Nat.pow 10 shift ≤ d.digits

/-- The number that decimal digits write, after `n`. -/
def digitsValue (n : Nat) (ds : List Char) : Nat :=
  ds.foldl (fun n d => n * 10 + (d.toNat - '0'.toNat)) n

/-- Reads the exponent of a number, which is all that is left of it. -/
def exponent? : List Char → Option Int
  | [] => some 0
  | e :: rest =>
    if e = 'e' ∨ e = 'E' then
      let (negative, ds) := match rest with
        | '-' :: ds => (true, ds)
        | '+' :: ds => (false, ds)
        | ds => (false, ds)
      if ds.isEmpty || !ds.all Char.isDigit then none
      else
        let n : Int := digitsValue 0 ds
        some (if negative then -n else n)
    else none

/-- Reads a number without sign: digits with a point before, among or after them, and
an exponent. -/
def ofList? (s : List Char) : Option Decimal :=
  let whole := s.takeWhile Char.isDigit
  let rest := s.dropWhile Char.isDigit
  let (fraction, rest) := match rest with
    | '.' :: r => (r.takeWhile Char.isDigit, r.dropWhile Char.isDigit)
    | r => ([], r)
  if whole.isEmpty && fraction.isEmpty then none
  else (exponent? rest).map fun e =>
    ⟨digitsValue (digitsValue 0 whole) fraction, e - fraction.length⟩

end Decimal

end Groundwork
