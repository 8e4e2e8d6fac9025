/-
Hosts of addresses: names, and numbers of version 4 and 6. A name is written in ASCII
and in small letters; one that ends in a number must be a number of version 4.
-/
import Groundwork.Text.LowerCase
import Groundwork.Text.Printable
import Groundwork.Url.Percent
import Groundwork.Url.Punycode

set_option autoImplicit false

namespace Groundwork.Url

/-- A host. -/
inductive Host where
  | name (s : List Char)
  | v4 (address : Nat)
  | v6 (pieces : List Nat)
deriving DecidableEq, Repr

/-! ## Names -/

/-- Whether a character may not stand in any host. -/
def isForbiddenInHost (c : Char) : Bool :=
  "\x00\t\n\r #/:<>?@[\\]^|".toList.contains c

/-- Whether a character may not stand in a name. -/
def isForbiddenInName (c : Char) : Bool :=
  isForbiddenInHost c || isControl c || c = '%'

/-- Whether a character is left out of names. -/
def isIgnored (c : Char) : Bool :=
  let n := c.toNat
  n = 0xad || n = 0x34f || (0x180b ≤ n && n ≤ 0x180f) || n = 0x200b || n = 0x2060 || n = 0x2064
    || (0xfe00 ≤ n && n ≤ 0xfe0f) || n = 0xfeff || (0xe0100 ≤ n && n ≤ 0xe01ef)

/-- What a character of a name stands for, if it may stand in one. -/
def nameChar? (c : Char) : Option (List Char) :=
  let n := c.toNat
  if n < 0x80 then some [c.toLower]
  else if n = 0x3002 || n = 0xff0e || n = 0xff61 then some ['.']
  else if isIgnored c then some []
  else if 0xff01 ≤ n && n ≤ 0xff5e then some [(Char.ofNat (n - 0xfee0)).toLower]
  else if Text.isPrintable c then some (Text.lowerChar c)
  else none

/-- A part of a name in ASCII. One that is written so already must be ASCII as a whole
and stand for characters that a name may hold, not all of them ASCII. -/
def asciiLabel? (label : List Char) : Option (List Char) :=
  let isAscii (s : List Char) : Bool := s.all (·.toNat < 0x80)
  if "xn--".toList.isPrefixOf label then
    (Punycode.decode? (label.drop 4)).bind fun s =>
      if !isAscii label || isAscii s || !s.all (fun c => nameChar? c = some [c]) then none
      else some label
  else if isAscii label then some label
  else some ("xn--".toList ++ Punycode.encode label)

/-- A name in ASCII. -/
def asciiName? (s : List Char) : Option (List Char) := do
  let s := (← s.mapM nameChar?).flatten
  if s.any isForbiddenInName then none
  let labels ← (Text.splitAll '.' s).mapM asciiLabel?
  return Text.joinWith ['.'] labels

/-! ## Numbers -/

/-- The number that digits of a base write. -/
def readDigits (base : Nat) (digit? : Char → Option Nat) : List Char → Option Nat :=
  List.foldlM (fun n c => (digit? c).bind fun d => if d < base then some (n * base + d) else none) 0

/-- A part of an address of version 4: decimal, or octal after a zero, or hexadecimal
after `0x`. -/
def v4Part? (s : List Char) : Option Nat :=
  match s with
  | [] => none
  | '0' :: 'x' :: rest => readDigits 16 Hex.digit? rest
  | '0' :: 'X' :: rest => readDigits 16 Hex.digit? rest
  | '0' :: rest => readDigits 8 Hex.digit? rest
  | s => readDigits 10 Hex.digit? s

/-- The parts of a name, without an empty last one after others. -/
def nameParts (s : List Char) : List (List Char) :=
  let parts := Text.splitAll '.' s
  if parts.length ≠ 1 && parts.getLast? = some [] then parts.dropLast else parts

/-- Whether a name ends in a number. -/
def endsInNumber (s : List Char) : Bool :=
  match (nameParts s).getLast? with
  | some last => (!last.isEmpty && last.all Char.isDigit) || (v4Part? last).isSome
  | none => false

/-- The address that the parts of a name write. The last part fills what the others
leave. -/
def v4Value? : List Nat → Option Nat
  | [a] => if a < UInt32.size then some a else none
  | [a, b] => if a < 256 ∧ b < 1 <<< 24 then some (a <<< 24 + b) else none
  | [a, b, c] =>
    if a < 256 ∧ b < 256 ∧ c < UInt16.size then some (a <<< 24 + b <<< 16 + c) else none
  | [a, b, c, d] =>
    if a < 256 ∧ b < 256 ∧ c < 256 ∧ d < 256 then
      some (a <<< 24 + b <<< 16 + c <<< 8 + d)
    else none
  | _ => none

/-- Reads an address of version 4. -/
def v4? (s : List Char) : Option Nat := do
  v4Value? (← (nameParts s).mapM v4Part?)

/-- A decimal part of an address of version 4 inside one of version 6. -/
def innerPart? (s : List Char) : Option Nat :=
  match s with
  | '0' :: _ :: _ => none
  | [] => none
  | s => (readDigits 10 Hex.digit? s).filter (· < 256)

/-- The pieces that some texts between colons write; the last one may be an address of
version 4. -/
def v6Pieces? : List (List Char) → Option (List Nat)
  | [] => some []
  | [s] =>
    if s.contains '.' then
      match (Text.splitAll '.' s).mapM innerPart? with
      | some [a, b, c, d] => some [a * 256 + b, c * 256 + d]
      | _ => none
    else if s.isEmpty || 4 < s.length then none
    else (readDigits 16 Hex.digit? s).map fun n => [n]
  | s :: rest =>
    if s.isEmpty || 4 < s.length then none
    else do
      let n ← readDigits 16 Hex.digit? s
      let ns ← v6Pieces? rest
      return n :: ns

/-- A text cut at its first two colons in a row. -/
def cutGap : List Char → Option (List Char × List Char)
  | ':' :: ':' :: rest => some ([], rest)
  | c :: rest => (cutGap rest).map fun (a, b) => (c :: a, b)
  | [] => none

/-- The pieces on one side of a gap; there may be none. -/
def sidePieces? (s : List Char) : Option (List Nat) :=
  if s.isEmpty then some [] else v6Pieces? (Text.splitAll ':' s)

/-- Reads an address of version 6. -/
def v6? (s : List Char) : Option (List Nat) :=
  match cutGap s with
  | none => (v6Pieces? (Text.splitAll ':' s)).filter (·.length = 8)
  | some (before, rest) => do
    -- An address of version 4 can only come last.
    if before.contains '.' then none
    let left ← sidePieces? before
    let right ← sidePieces? rest
    -- A gap stands for one piece at least.
    if left.length + right.length ≤ 7 then
      some (left ++ List.replicate (8 - left.length - right.length) 0 ++ right)
    else none

/-! ## Reading -/

/-- Reads what may stand between brackets. -/
def bracketed? (s : List Char) : Option Host :=
  if s.getLast? = some ']' then (v6? (s.drop 1).dropLast).map Host.v6 else none

/-- Reads the host of an address with a special scheme. -/
def Host.parse? (s : List Char) : Option Host :=
  if s.head? = some '[' then bracketed? s
  else do
    let decoded ← String.fromUTF8? ⟨(percentDecode s).toArray⟩
    let name ← asciiName? decoded.toList
    if name.isEmpty then none
    -- A name that ends in a number is taken for an address, and may not be one.
    if endsInNumber name then (v4? name).map Host.v4 else some (.name name)

/-- Reads the host of an address with any other scheme. -/
def Host.parseOther? (s : List Char) : Option Host :=
  if s.head? = some '[' then bracketed? s
  else if s.any isForbiddenInHost then none
  else some (.name (percentEncode isControl s))

/-! ## Writing -/

/-- The length of the run of zeros at the start. -/
def zeroRun (ns : List Nat) : Nat :=
  (ns.takeWhile (· = 0)).length

/-- The longest run of zeros, the first of several: its start and its length. -/
def longestZeros : Nat → List Nat → Nat × Nat
  | _, [] => (0, 0)
  | i, n :: ns =>
    let here := zeroRun (n :: ns)
    let later := longestZeros (i + 1) ns
    if later.2 ≤ here then (i, here) else later

/-- Pieces in hexadecimal with colons between them. -/
def pieceText (ns : List Nat) : List Char :=
  Text.joinWith [':'] (ns.map (Nat.toDigits 16))

/-- Writes an address of version 6; the longest run of zeros is left out. -/
def v6Text (ns : List Nat) : List Char :=
  let (start, length) := longestZeros 0 ns
  if length < 2 then pieceText ns
  else pieceText (ns.take start) ++ [':', ':'] ++ pieceText (ns.drop (start + length))

/-- Writes a host. -/
def Host.text : Host → List Char
  | name s => s
  | v4 a =>
    Text.joinWith ['.'] ([a >>> 24, a >>> 16 % 256, a >>> 8 % 256, a % 256].map (Nat.toDigits 10))
  | v6 ns => '[' :: v6Text ns ++ [']']

end Groundwork.Url
