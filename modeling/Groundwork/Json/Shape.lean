/-
Shapes that JSON values are expected to have. A value of a shape is taken over in
one form: a record names all of its fields, also if it was written as an array of
them, and addresses are in normal form.
-/
import Groundwork.Json.Record
import Groundwork.Json.Variant
import Groundwork.Text.Timestamp
import Groundwork.Url

set_option autoImplicit false

namespace Groundwork.Json

/-- What a value is expected to be. -/
inductive Shape where
  | any
  | text
  | flag
  /-- A natural number below a bound. -/
  | nat (bound : Nat)
  /-- An address. -/
  | url
  /-- A point in time. -/
  | time
  /-- One of some words. -/
  | word (words : List String)
  /-- A value that may be missing or `null`. -/
  | optional (shape : Shape)
  | list (shape : Shape)
  | record (fields : List (String × Shape))
deriving Inhabited

namespace Shape

/-- Whether a record may leave a field of the shape out. -/
def isOptional : Shape → Bool
  | optional _ => true
  | _ => false

mutual

/-- A value in the form of a shape, if it has it. -/
def read? : Shape → Json → Option Json
  | any, v => some v
  | text, .string s => some (.string s)
  | flag, .bool b => some (.bool b)
  | nat bound, v => (v.nat? bound).map ofNat
  | url, .string s => (Url.parse? s).map fun u => .string u.text
  | time, .string s => if Text.isTimestamp s.toList then some (.string s) else none
  | word words, v => (v.choice?.filter words.contains).map .string
  | optional _, .null => some .null
  | optional shape, v => read? shape v
  | list shape, .array vs => (readList? shape vs).map .array
  | record fields, v =>
    match v.fields? (fields.map (·.1)) with
    | some fs => (readFields? fs fields).map .object
    | none => none
  | _, _ => none

/-- The items of a list in the form of a shape. -/
def readList? : Shape → List Json → Option (List Json)
  | _, [] => some []
  | shape, v :: vs =>
    match read? shape v, readList? shape vs with
    | some v, some vs => some (v :: vs)
    | _, _ => none

/-- The fields of a record in the forms of their shapes. -/
def readFields? (fs : Fields) : List (String × Shape) → Option (List (String × Json))
  | [] => some []
  | (name, shape) :: rest =>
    let value := match fs.find? name with
      | some v => read? shape v
      | none => if shape.isOptional && !fs.positional then some .null else none
    match value, readFields? fs rest with
    | some v, some vs => some ((name, v) :: vs)
    | _, _ => none

end

end Shape

end Groundwork.Json
