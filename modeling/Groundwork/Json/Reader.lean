/-
Reading JSON text. The text is bytes: strings are decoded as they are read, so a
string that is no UTF-8 spoils itself and not the text around it. Blanks are the
four of the JSON grammar, numbers have no leading zeros, and after the value only
blanks may follow.
-/
import Groundwork.Json.Basic

set_option autoImplicit false

namespace Groundwork.Json

/-- A text as bytes. -/
abbrev Bytes := List UInt8

/-- Whether a byte is one of the four blanks of the grammar. -/
def isBlankByte (b : UInt8) : Bool :=
  b == 0x20 || b == 0x0A || b == 0x0D || b == 0x09

/-- The text without its leading blanks. -/
def skipBlanks (bs : Bytes) : Bytes :=
  bs.dropWhile isBlankByte

/-- Whether a byte is a decimal digit. -/
def isDigitByte (b : UInt8) : Bool :=
  0x30 ≤ b && b ≤ 0x39

/-- The value of a hexadecimal digit of either case. -/
def hexValue? (b : UInt8) : Option Nat :=
  if isDigitByte b then some (b.toNat - 0x30)
  else if 0x61 ≤ b && b ≤ 0x66 then some (b.toNat - 0x61 + 10)
  else if 0x41 ≤ b && b ≤ 0x46 then some (b.toNat - 0x41 + 10)
  else none

/-! ## Strings -/

/-- The number written in the first four bytes, as hexadecimal. -/
def hexQuad? : Bytes → Option (Nat × Bytes)
  | a :: b :: c :: d :: rest => do
    let a ← hexValue? a
    let b ← hexValue? b
    let c ← hexValue? c
    let d ← hexValue? d
    return (((a * 16 + b) * 16 + c) * 16 + d, rest)
  | _ => none

/-- The byte that a one-letter escape stands for. -/
def escapedByte? (b : UInt8) : Option UInt8 :=
  match Char.ofNat b.toNat with
  | '"' => some 0x22
  | '\\' => some 0x5C
  | '/' => some 0x2F
  | 'b' => some 0x08
  | 'f' => some 0x0C
  | 'n' => some 0x0A
  | 'r' => some 0x0D
  | 't' => some 0x09
  | _ => none

/-- What a string read so far holds: its bytes in reverse, or nothing once half a
surrogate pair was met. -/
abbrev Content := Option (List UInt8)

/-- The content with a code point added. -/
def Content.push (content : Content) (code : Nat) : Content :=
  content.map fun bs => (String.singleton (Char.ofNat code)).toUTF8.toList.reverse ++ bs

/-- The code point of a surrogate pair. -/
def pairCode (high low : Nat) : Nat :=
  (high - 0xD800) * 0x400 + (low - 0xDC00) + 0x10000

/-- Reads a string up to its closing quote, with fuel for each byte. -/
def readContent : Nat → Content → Bytes → Option (Content × Bytes)
  | 0, _, _ => none
  | _, _, [] => none
  | fuel + 1, content, b :: rest =>
    if b == 0x22 then some (content, rest)
    else if b == 0x5C then
      match rest with
      | [] => none
      | e :: rest =>
        if e == 0x75 then
          match hexQuad? rest with
          | none => none
          | some (code, rest) =>
            if 0xDC00 ≤ code && code ≤ 0xDFFF then readContent fuel none rest
            else if 0xD800 ≤ code && code ≤ 0xDBFF then
              match rest with
              | 0x5C :: 0x75 :: after =>
                match hexQuad? after with
                | none => none
                | some (low, after) =>
                  if 0xDC00 ≤ low && low ≤ 0xDFFF then
                    readContent fuel (content.push (pairCode code low)) after
                  else readContent fuel none rest
              | _ => readContent fuel none rest
            else readContent fuel (content.push code) rest
        else
          match escapedByte? e with
          | none => none
          | some c => readContent fuel (content.map (c :: ·)) rest
    else if b < 0x20 then none
    else readContent fuel (content.map (b :: ·)) rest

/-- Reads a string after its opening quote; no text if the bytes are none. -/
def readString (bs : Bytes) : Option (Option String × Bytes) :=
  (readContent (bs.length + 1) (some []) bs).map fun (content, rest) =>
    (content.bind fun c => String.fromUTF8? ⟨c.reverse.toArray⟩, rest)

/-! ## Numbers -/

/-- The number written by decimal digits, after `n` was read. -/
def digitsValue (n : Nat) (ds : Bytes) : Nat :=
  ds.foldl (fun n b => n * 10 + (b.toNat - 0x30)) n

/-- Reads the exponent part of a number, if there is one. -/
def readExponent (bs : Bytes) : Option (Option Int × Bytes) :=
  match bs with
  | b :: rest =>
    if b == 0x65 || b == 0x45 then
      let (negative, rest) := match rest with
        | 0x2B :: r => (false, r)
        | 0x2D :: r => (true, r)
        | r => (false, r)
      let ds := rest.takeWhile isDigitByte
      if ds.isEmpty then none
      else
        let n : Int := digitsValue 0 ds
        some (some (if negative then -n else n), rest.dropWhile isDigitByte)
    else some (none, bs)
  | [] => some (none, [])

/-- Reads the digits after the point of a number, if there is one. -/
def readFraction (bs : Bytes) : Option (Option Bytes × Bytes) :=
  match bs with
  | 0x2E :: rest =>
    let ds := rest.takeWhile isDigitByte
    if ds.isEmpty then none else some (some ds, rest.dropWhile isDigitByte)
  | _ => some (none, bs)

/-- Reads a number without its sign. -/
def readUnsigned (negative : Bool) (bs : Bytes) : Option (Number × Bytes) := do
  let ds := bs.takeWhile isDigitByte
  let rest := bs.dropWhile isDigitByte
  if ds.isEmpty || (ds.head? == some 0x30 && ds.length ≠ 1) then none
  let (fraction, rest) ← readFraction rest
  let (exponent, rest) ← readExponent rest
  let shift : Int := (fraction.getD []).length
  return (⟨negative, digitsValue (digitsValue 0 ds) (fraction.getD []),
    exponent.getD 0 - shift, fraction.isNone && exponent.isNone⟩, rest)

/-- Reads a number. -/
def readNumber : Bytes → Option (Number × Bytes)
  | 0x2D :: rest => readUnsigned true rest
  | bs => readUnsigned false bs

/-! ## Values -/

/-- The text without a word at its start. -/
def dropWord? : Bytes → Bytes → Option Bytes
  | [], bs => some bs
  | _, [] => none
  | w :: ws, b :: bs => if w == b then dropWord? ws bs else none

/-- An object of members whose names may be unreadable; one such name makes the
object unreadable. -/
def ofMembers (members : List (Option String × Json)) : Json :=
  match members.mapM fun (name, v) => name.map (·, v) with
  | some ms => .object ms
  | none => .unreadable

mutual

/-- Reads a value that starts here. -/
def readValue : Nat → Bytes → Option (Json × Bytes)
  | 0, _ => none
  | _, [] => none
  | fuel + 1, b :: rest =>
    match Char.ofNat b.toNat with
    | 'n' => (dropWord? "ull".toUTF8.toList rest).map (.null, ·)
    | 't' => (dropWord? "rue".toUTF8.toList rest).map (.bool true, ·)
    | 'f' => (dropWord? "alse".toUTF8.toList rest).map (.bool false, ·)
    | '"' => (readString rest).map fun (s, rest) => (s.elim .unreadable .string, rest)
    | '[' =>
      match skipBlanks rest with
      | 0x5D :: rest => some (.array [], rest)
      | rest => (readItems fuel rest).map fun (xs, rest) => (.array xs, rest)
    | '\x7b' =>
      match skipBlanks rest with
      | 0x7D :: rest => some (.object [], rest)
      | rest => (readMembers fuel rest).map fun (ms, rest) => (ofMembers ms, rest)
    | _ => (readNumber (b :: rest)).map fun (n, rest) => (.number n, rest)

/-- Reads the items of an array up to its closing bracket. -/
def readItems : Nat → Bytes → Option (List Json × Bytes)
  | 0, _ => none
  | fuel + 1, bs =>
    match readValue fuel (skipBlanks bs) with
    | none => none
    | some (x, rest) =>
      match skipBlanks rest with
      | 0x2C :: rest => (readItems fuel rest).map fun (xs, rest) => (x :: xs, rest)
      | 0x5D :: rest => some ([x], rest)
      | _ => none

/-- Reads the members of an object up to its closing brace. -/
def readMembers : Nat → Bytes → Option (List (Option String × Json) × Bytes)
  | 0, _ => none
  | fuel + 1, bs =>
    match skipBlanks bs with
    | 0x22 :: rest =>
      match readString rest with
      | none => none
      | some (name, rest) =>
        match skipBlanks rest with
        | 0x3A :: rest =>
          match readValue fuel (skipBlanks rest) with
          | none => none
          | some (v, rest) =>
            match skipBlanks rest with
            | 0x2C :: rest =>
              (readMembers fuel rest).map fun (ms, rest) => ((name, v) :: ms, rest)
            | 0x7D :: rest => some ([(name, v)], rest)
            | _ => none
        | _ => none
    | _ => none

end

/-- The value that a text starts with, and what follows it. -/
def ofStart? (bs : Bytes) : Option (Json × Bytes) :=
  readValue (2 * bs.length + 2) (skipBlanks bs)

/-- The value that a text holds, or `none` if it is not JSON. -/
def ofBytes? (bs : Bytes) : Option Json :=
  match ofStart? bs with
  | some (v, rest) => if (skipBlanks rest).isEmpty then some v else none
  | none => none

/-- The value that a text holds, or `none` if it is not JSON. -/
def ofString? (s : String) : Option Json :=
  ofBytes? s.toUTF8.toList

end Groundwork.Json
