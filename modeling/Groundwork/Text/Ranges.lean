/-
Sets of characters written as tables of closed code point ranges, the form in
which character properties are published.
-/
set_option autoImplicit false

namespace Groundwork.Text

/-- A set of characters, as closed ranges of code points. -/
abbrev Ranges := List (Nat × Nat)

/-- Whether a character lies in one of the ranges. -/
def Ranges.holds (table : Ranges) (c : Char) : Bool :=
  table.any fun (lo, hi) => lo ≤ c.toNat && c.toNat ≤ hi

end Groundwork.Text
