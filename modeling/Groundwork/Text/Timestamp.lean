/-
Points in time as text: a date, a time of day, and how far the clock there is from
the common one.
-/
import Groundwork.Text.Blank

set_option autoImplicit false

namespace Groundwork.Text

/-- A number of at most `width` digits at the start of a text, and what is left. -/
def takeNumber (width : Nat) (s : List Char) : Option (Nat × List Char) :=
  let ds := (s.take width).takeWhile Char.isDigit
  if ds.isEmpty then none
  else some (ds.foldl (fun n d => n * 10 + (d.toNat - '0'.toNat)) 0, s.drop ds.length)

/-- What is left of a text after a character. -/
def takeSign (c : Char) : List Char → Option (List Char)
  | d :: rest => if d = c then some rest else none
  | [] => none

/-- The number of days of a month. -/
def daysOf (year month : Nat) : Nat :=
  if month = 2 then
    if year % 4 = 0 && (year % 100 ≠ 0 || year % 400 = 0) then 29 else 28
  else if [4, 6, 9, 11].contains month then 30
  else 31

/-- Reads a date; gives what is left. -/
def takeDate (s : List Char) : Option (List Char) := do
  let (year, s) ← takeNumber 4 s
  let s ← takeSign '-' s
  let (month, s) ← takeNumber 2 s
  let s ← takeSign '-' s
  let (day, s) ← takeNumber 2 s
  if 1 ≤ month && month ≤ 12 && 1 ≤ day && day ≤ daysOf year month then some s else none

/-- Reads a time of day, with a fraction of a second or without; gives what is left. -/
def takeTime (s : List Char) : Option (List Char) := do
  let (hour, s) ← takeNumber 2 s
  let s ← takeSign ':' s
  let (minute, s) ← takeNumber 2 s
  let s ← takeSign ':' s
  let (second, s) ← takeNumber 2 s
  if hour < 24 && minute < 60 && second ≤ 60 then
    match s with
    | '.' :: d :: rest => if d.isDigit then some (rest.dropWhile Char.isDigit) else none
    | ['.'] => none
    | s => some s
  else none

/-- Reads a distance in hours and minutes after its sign; gives what is left. -/
def takeDistance (s : List Char) : Option (List Char) :=
  match s with
  | a :: b :: rest =>
    if a.isDigit && b.isDigit then
      match rest.dropWhile fun c => c = ':' || isBlank c with
      | c :: d :: rest => if '0' ≤ c && c ≤ '5' && d.isDigit then some rest else none
      | _ => none
    else none
  | _ => none

/-- Reads the distance from the common clock; gives what is left. -/
def takeZone (s : List Char) : Option (List Char) :=
  match s with
  | 'Z' :: rest => some rest
  | 'z' :: rest => some rest
  | '+' :: rest => takeDistance rest
  | '-' :: rest => takeDistance rest
  | s => if (s.take 3).map Char.toUpper = "UTC".toList then some (s.drop 3) else none

/-- Whether a text is a point in time. -/
def isTimestamp (s : List Char) : Bool :=
  match takeDate s with
  | some (c :: rest) =>
    (c = 'T' || c = 't' || c = ' ')
      && ((takeTime rest).bind fun rest => takeZone (rest.dropWhile isBlank)) == some []
  | _ => false

end Groundwork.Text
