/-
Records written in JSON: an object that names the fields, in any order and among
other members, or an array that holds the fields in their order. A field may not
be named twice.
-/
import Groundwork.Json.Basic

set_option autoImplicit false

namespace Groundwork.Json

/-- The fields found in a record, in the order in which they were asked for. An
array leaves out its last fields only. -/
structure Fields where
  values : List (String × Json)
  positional : Bool

/-- The fields of a record that have one of the given names, or `none` if the value is
no record with such fields. -/
def fields? (names : List String) : Json → Option Fields
  | .object ms =>
    let known := ms.filter fun m => names.contains m.1
    if (known.map (·.1)).Nodup then some ⟨known, false⟩ else none
  | .array items =>
    if items.length ≤ names.length then some ⟨names.zip items, true⟩ else none
  | _ => none

namespace Fields

/-- The value of a field. -/
def find? (r : Fields) (name : String) : Option Json :=
  r.values.lookup name

/-- A field that must be there. -/
def required {α : Type} (r : Fields) (name : String) (read : Json → Option α) : Option α :=
  (r.find? name).bind read

/-- A field that may be left out. -/
def defaulted {α : Type} (r : Fields) (name : String) (read : Json → Option α) (dflt : α) :
    Option α :=
  match r.find? name with
  | some v => read v
  | none => some dflt

/-- A field that may be left out or be `null`. -/
def optional {α : Type} (r : Fields) (name : String) (read : Json → Option α) :
    Option (Option α) :=
  match r.find? name with
  | some .null => some none
  | some v => (read v).map some
  | none => some none

/-- A field that may be `null` and, in an object only, be left out. -/
def nullable {α : Type} (r : Fields) (name : String) (read : Json → Option α) :
    Option (Option α) :=
  match r.find? name with
  | some .null => some none
  | some v => (read v).map some
  | none => if r.positional then none else some none

end Fields

end Groundwork.Json
