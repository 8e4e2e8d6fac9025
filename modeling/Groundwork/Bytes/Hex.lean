/-
Bytes as hexadecimal digits, two for each byte, in either letter case.
-/
set_option autoImplicit false

namespace Groundwork.Hex

/-- The value of a digit. -/
def digit? (c : Char) : Option Nat :=
  if '0' ≤ c ∧ c ≤ '9' then some (c.toNat - '0'.toNat)
  else if 'a' ≤ c ∧ c ≤ 'f' then some (c.toNat - 'a'.toNat + 10)
  else if 'A' ≤ c ∧ c ≤ 'F' then some (c.toNat - 'A'.toNat + 10)
  else none

/-- The bytes that digits spell. -/
def decode? : List Char → Option (List UInt8)
  | [] => some []
  | a :: b :: rest => do
    let x ← digit? a
    let y ← digit? b
    let bytes ← decode? rest
    some (UInt8.ofNat (16 * x + y) :: bytes)
  | [_] => none

/-- The digit with a value below 16. -/
def digit (n : Nat) : Char :=
  if n < 10 then Char.ofNat (n + '0'.toNat) else Char.ofNat (n - 10 + 'a'.toNat)

/-- Spells bytes with small letters. -/
def encode : List UInt8 → List Char
  | [] => []
  | b :: bytes => digit (b.toNat / 16) :: digit (b.toNat % 16) :: encode bytes

/-- The digits that are written have the values they are written for. -/
theorem digit?_digit {n : Nat} (h : n < 16) : digit? (digit n) = some n := by
  have all : ∀ m : Fin 16, digit? (digit m.val) = some m.val := by decide
  exact all ⟨n, h⟩

/-- What is spelled is read as the same bytes. -/
theorem decode?_encode (bytes : List UInt8) : decode? (encode bytes) = some bytes := by
  induction bytes with
  | nil => rfl
  | cons b bytes ih =>
    have hb : b.toNat < 256 := b.toNat_lt
    have halves : 16 * (b.toNat / 16) + b.toNat % 16 = b.toNat := by omega
    have whole : UInt8.ofNat (16 * (b.toNat / 16) + b.toNat % 16) = b := by
      rw [halves, UInt8.ofNat_toNat]
    simp only [encode, decode?, digit?_digit (show b.toNat / 16 < 16 by omega),
      digit?_digit (show b.toNat % 16 < 16 by omega), ih, Option.bind_eq_bind, Option.bind_some,
      whole]

end Groundwork.Hex
