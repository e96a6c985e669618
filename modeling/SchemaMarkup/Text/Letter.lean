import SchemaMarkup.Text.LetterRanges

set_option autoImplicit false

/-!
# Letters

Which characters are letters.

## Main definitions

* `SchemaMarkup.Text.inRanges` — membership in a table of ranges.
* `SchemaMarkup.Text.isLetter` — the characters of the letter categories.
-/

namespace SchemaMarkup.Text

/-- The code point lies in one of the inclusive ranges. -/
def inRanges (ranges : List (Nat × Nat)) (n : Nat) : Bool :=
  ranges.any fun r => r.1 ≤ n && n ≤ r.2

/-- A character is a letter when its general category is one of the letter categories. -/
def isLetter (c : Char) : Bool := inRanges letterRanges c.toNat

end SchemaMarkup.Text
