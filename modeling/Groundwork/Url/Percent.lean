/-
Percent encoding: a byte written as a percent sign and two hexadecimal digits. Each
part of an address has its own set of characters that must be written so; characters
outside ASCII always are.
-/
import Groundwork.Bytes.Hex

set_option autoImplicit false

namespace Groundwork.Url

/-! ## Sets -/

/-- Controls. -/
def isControl (c : Char) : Bool :=
  c.toNat < 0x20 || c.toNat = 0x7f

/-- What must be encoded in a fragment. -/
def inFragmentSet (c : Char) : Bool :=
  isControl c || " \"<>`".toList.contains c

/-- What must be encoded in a query. -/
def inQuerySet (c : Char) : Bool :=
  isControl c || " \"#<>".toList.contains c

/-- What must be encoded in the query of an address with a special scheme. -/
def inSpecialQuerySet (c : Char) : Bool :=
  inQuerySet c || c = '\''

/-- What must be encoded in a path. -/
def inPathSet (c : Char) : Bool :=
  inFragmentSet c || "#?\x7b\x7d".toList.contains c

/-- What must be encoded in the name and the password of a user. -/
def inUserSet (c : Char) : Bool :=
  inPathSet c || "/:;=@[\\]^|".toList.contains c

/-! ## Encoding -/

/-- A byte as a percent sign and two digits. -/
def percentByte (b : UInt8) : List Char :=
  ['%', (Hex.digit (b.toNat / 16)).toUpper, (Hex.digit (b.toNat % 16)).toUpper]

/-- A character, encoded if it is in a set or outside ASCII. -/
def percentChar (set : Char → Bool) (c : Char) : List Char :=
  if set c || 0x80 ≤ c.toNat then (String.utf8EncodeChar c).flatMap percentByte else [c]

/-- A text with its characters encoded as needed. -/
def percentEncode (set : Char → Bool) (s : List Char) : List Char :=
  s.flatMap (percentChar set)

/-- The bytes of a text, with percent signs and two digits taken for what they stand
for. -/
def percentDecode : List Char → List UInt8
  | [] => []
  | '%' :: a :: b :: rest =>
    match Hex.digit? a, Hex.digit? b with
    | some x, some y => UInt8.ofNat (16 * x + y) :: percentDecode rest
    | _, _ => 0x25 :: percentDecode (a :: b :: rest)
  | c :: rest => String.utf8EncodeChar c ++ percentDecode rest
termination_by s => s.length

end Groundwork.Url
