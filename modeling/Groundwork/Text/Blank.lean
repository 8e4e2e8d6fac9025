/-
White space: the characters with the Unicode property of that name. Chat words
are what stands between them.
-/
import Groundwork.Text.Ranges

set_option autoImplicit false

namespace Groundwork.Text

/-- The characters with the property `White_Space`. -/
def blanks : Ranges := [
  (0x9, 0xD), (0x20, 0x20), (0x85, 0x85), (0xA0, 0xA0), (0x1680, 0x1680), (0x2000, 0x200A),
  (0x2028, 0x2029), (0x202F, 0x202F), (0x205F, 0x205F), (0x3000, 0x3000)]

/-- Whether a character separates words. -/
def isBlank (c : Char) : Bool :=
  blanks.holds c

end Groundwork.Text
