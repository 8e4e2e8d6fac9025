/-
Base64 with the standard alphabet. Groups are four characters; the last one may be
padded, and the bits that padding cuts off are zero.
-/
set_option autoImplicit false

namespace Groundwork.Base64

/-- The value of a character of the alphabet. -/
def value? (c : Char) : Option Nat :=
  if 'A' ≤ c ∧ c ≤ 'Z' then some (c.toNat - 'A'.toNat)
  else if 'a' ≤ c ∧ c ≤ 'z' then some (c.toNat - 'a'.toNat + 26)
  else if '0' ≤ c ∧ c ≤ '9' then some (c.toNat - '0'.toNat + 52)
  else if c = '+' then some 62
  else if c = '/' then some 63
  else none

/-- The byte that a padded group of two characters stands for. -/
def one? (a b : Char) : Option UInt8 := do
  let x ← value? a
  let y ← value? b
  if y % 16 = 0 then some (UInt8.ofNat (x * 4 + y / 16)) else none

/-- The bytes that a padded group of three characters stands for. -/
def two? (a b c : Char) : Option (UInt8 × UInt8) := do
  let x ← value? a
  let y ← value? b
  let z ← value? c
  if z % 4 = 0 then
    some (UInt8.ofNat (x * 4 + y / 16), UInt8.ofNat (y % 16 * 16 + z / 4))
  else none

/-- The bytes that a full group stands for. -/
def three? (a b c d : Char) : Option (UInt8 × UInt8 × UInt8) := do
  let x ← value? a
  let y ← value? b
  let z ← value? c
  let w ← value? d
  some (UInt8.ofNat (x * 4 + y / 16), UInt8.ofNat (y % 16 * 16 + z / 4),
    UInt8.ofNat (z % 4 * 64 + w))

/-- Decodes a text after the bytes in `out`, last byte first. -/
def decodeAfter (out : List UInt8) : List Char → Option (List UInt8)
  | [] => some out
  | [a, b, '=', '='] => (one? a b).map (· :: out)
  | [a, b, c, '='] => (two? a b c).map fun (x, y) => y :: x :: out
  | a :: b :: c :: d :: rest =>
    match three? a b c d with
    | some (x, y, z) => decodeAfter (z :: y :: x :: out) rest
    | none => none
  | _ => none

/-- The bytes that a text stands for. -/
def decode? (s : String) : Option ByteArray :=
  (decodeAfter [] s.toList).map fun out => ⟨out.reverse.toArray⟩

end Groundwork.Base64
