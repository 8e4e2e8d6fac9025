/-
JSON values. Members of an object keep their order and their repetitions, since
readers of records tell a repeated member from a single one. A string that no
text can hold (half a surrogate pair, bytes that are not UTF-8) is a value of
its own: whoever skips it never notices, whoever wants the text gets none.
-/
set_option autoImplicit false

namespace Groundwork

/-- A JSON number as written: `digits * 10 ^ exponent` with its sign, and whether
it was written without point and exponent. -/
structure Json.Number where
  negative : Bool
  digits : Nat
  exponent : Int
  integral : Bool
deriving DecidableEq, Repr

/-- A JSON value. -/
inductive Json where
  | null
  | bool (b : Bool)
  | number (n : Json.Number)
  | string (s : String)
  | unreadable
  | array (items : List Json)
  | object (members : List (String × Json))
deriving Repr, Inhabited

namespace Json

/-- A natural number as JSON. -/
def ofNat (n : Nat) : Json :=
  .number ⟨false, n, 0, true⟩

/-- The natural number that was written, if it was one. A minus sign before zero
makes a fraction of it. -/
def Number.toNat? (n : Number) : Option Nat :=
  if n.integral && !n.negative then some n.digits else none

/-- The natural number below `bound` that a value is, if it is one. -/
def nat? (bound : Nat) : Json → Option Nat
  | .number n => n.toNat?.filter (· < bound)
  | _ => none

/-- The text that a value is, if it is one. -/
def string? : Json → Option String
  | .string s => some s
  | _ => none

/-- The value of the last member with a name. -/
def get? (name : String) : Json → Option Json
  | .object members => (members.reverse.find? (·.1 = name)).map (·.2)
  | _ => none

/-- A member's value, `null` when there is none. -/
def get (name : String) (v : Json) : Json :=
  (v.get? name).getD .null

/-- The members of an object, none for any other value. -/
def members : Json → List (String × Json)
  | .object ms => ms
  | _ => []

/-- The items of an array, none for any other value. -/
def items : Json → List Json
  | .array xs => xs
  | _ => []

@[simp] theorem nat?_ofNat {bound n : Nat} : (ofNat n).nat? bound = if n < bound then some n else none := by
  simp [ofNat, nat?, Number.toNat?, Option.filter]

end Json

end Groundwork
