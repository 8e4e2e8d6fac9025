/-
Values that are taken over as a whole, whatever they are. All of such a value has to
be held: its texts, its numbers, and every level of it. Of members with one name the
last is kept.
-/
import Groundwork.Decimal
import Groundwork.Json.Basic

set_option autoImplicit false

namespace Groundwork.Json

/-! ## Values that can be held -/

/-- The most levels that a value may have. -/
def maxDepth : Nat := 127

/-- Whether a number has a nearest floating point number, and not infinity. -/
def Number.isFinite (n : Number) : Bool :=
  !(Decimal.mk n.digits n.exponent).overflows

mutual

/-- Whether a value of at most some levels holds nothing that no text or number can
hold. -/
def isHeldWithin : Nat → Json → Bool
  | _, .unreadable => false
  | _, .number n => n.isFinite
  | 0, .array _ => false
  | depth + 1, .array vs => areHeldWithin depth vs
  | 0, .object _ => false
  | depth + 1, .object ms => membersHeldWithin depth ms
  | _, _ => true

/-- Whether some values can be held. -/
def areHeldWithin : Nat → List Json → Bool
  | _, [] => true
  | depth, v :: vs => isHeldWithin depth v && areHeldWithin depth vs

/-- Whether the values of some members can be held. -/
def membersHeldWithin : Nat → List (String × Json) → Bool
  | _, [] => true
  | depth, (_, v) :: ms => isHeldWithin depth v && membersHeldWithin depth ms

end

/-- Whether a value can be held. -/
def isReadable (v : Json) : Bool :=
  isHeldWithin maxDepth v

/-! ## Members that are named once -/

/-- Members with the last one of each name only. -/
def lastMembers : List (String × Json) → List (String × Json)
  | [] => []
  | m :: ms => if ms.any (·.1 == m.1) then lastMembers ms else m :: lastMembers ms

mutual

/-- A value whose objects name each member once, with its last value. -/
def settled : Json → Json
  | .array vs => .array (settledAll vs)
  | .object ms => .object (lastMembers (settledMembers ms))
  | v => v

/-- Values whose objects name each member once. -/
def settledAll : List Json → List Json
  | [] => []
  | v :: vs => settled v :: settledAll vs

/-- Members whose objects name each member once. -/
def settledMembers : List (String × Json) → List (String × Json)
  | [] => []
  | (name, v) :: ms => (name, settled v) :: settledMembers ms

end

end Groundwork.Json
