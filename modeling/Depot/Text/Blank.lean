set_option autoImplicit false

/-!
# Blank characters

The characters with the property White_Space, and texts cut at them.

## Main definitions

* `isBlank` — the property.
* `isBlankText`, `trimBlanks` — texts of blanks only, and texts without the blanks at their ends.
-/

namespace Depot.Text

/-- Whether a character has the property White_Space. -/
def isBlank (c : Char) : Bool :=
  let n := c.toNat
  (9 ≤ n && n ≤ 13) || n == 0x20 || n == 0x85 || n == 0xa0 || n == 0x1680
    || (0x2000 ≤ n && n ≤ 0x200a) || n == 0x2028 || n == 0x2029 || n == 0x202f || n == 0x205f
    || n == 0x3000

/-- Whether a text has no character other than blanks. -/
def isBlankText (s : String) : Bool := s.toList.all isBlank

/-- The characters from the first one that is not blank. -/
def trimBlanksLeft (cs : List Char) : List Char := cs.dropWhile isBlank

/-- The text without blanks at its ends. -/
def trimBlanks (s : String) : String :=
  String.ofList (trimBlanksLeft (trimBlanksLeft s.toList).reverse).reverse

end Depot.Text
