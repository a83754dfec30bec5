import Listing.Text.Basic

/-!
# Blanks

The characters with the Unicode property White_Space. They are what trimming removes; between
tokens only the space itself is skipped.
-/

namespace Listing.Text

/-- Whether a character has the property White_Space. -/
def isBlank (c : Char) : Bool :=
  let n := c.toNat
  (9 ≤ n && n ≤ 13) || n == 0x20 || n == 0x85 || n == 0xA0 || n == 0x1680 ||
    (0x2000 ≤ n && n ≤ 0x200A) || n == 0x2028 || n == 0x2029 || n == 0x202F || n == 0x205F ||
    n == 0x3000

/-- A text without the blanks at its end. -/
def trimBlankEnd (t : Text) : Text := trimEnd isBlank t

/-- A text without the blanks at either end. -/
def trimBlanks (t : Text) : Text := trim isBlank t

end Listing.Text
