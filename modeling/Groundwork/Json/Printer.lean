/-
Writing JSON: no blanks, members in their order. Inside strings the quote, the
backslash and the control characters are escaped and nothing else.
-/
import Groundwork.Json.Basic

set_option autoImplicit false

namespace Groundwork.Json

/-- A digit of a lower-case hexadecimal number. -/
def hexDigit (n : Nat) : Char :=
  Nat.digitChar n

/-- How a character stands in a string. -/
def stringChar (c : Char) : List Char :=
  match c with
  | '"' => ['\\', '"']
  | '\\' => ['\\', '\\']
  | '\n' => ['\\', 'n']
  | '\r' => ['\\', 'r']
  | '\t' => ['\\', 't']
  | '\x08' => ['\\', 'b']
  | '\x0c' => ['\\', 'f']
  | c =>
    if c.toNat < 0x20 then
      ['\\', 'u', '0', '0', hexDigit (c.toNat / 16), hexDigit (c.toNat % 16)]
    else [c]

/-- A string in quotes. -/
def printString (s : String) : String :=
  String.ofList ('"' :: s.toList.flatMap stringChar ++ ['"'])

/-- A number: its digits, with an exponent unless it was written without. -/
def Number.print (n : Number) : String :=
  (if n.negative then "-" else "") ++ toString n.digits
    ++ (if n.integral then "" else "e" ++ toString n.exponent)

mutual

/-- A value as text. -/
def print : Json → String
  | .null => "null"
  | .bool true => "true"
  | .bool false => "false"
  | .number n => n.print
  | .string s => printString s
  | .unreadable => "null"
  | .array items => "[" ++ ",".intercalate (printItems items) ++ "]"
  | .object ms => "\x7b" ++ ",".intercalate (printMembers ms) ++ "\x7d"

/-- Each item as text. -/
def printItems : List Json → List String
  | [] => []
  | v :: vs => print v :: printItems vs

/-- Each member as text. -/
def printMembers : List (String × Json) → List String
  | [] => []
  | (name, v) :: ms => (printString name ++ ":" ++ print v) :: printMembers ms

end

end Groundwork.Json
