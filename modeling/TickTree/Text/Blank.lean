/-!
# Blanks

The characters with the property White_Space, and the text between the blanks at its two ends.

## Main definitions

* `isBlank`: the characters with the property White_Space
* `trim`: a text without the blanks at its two ends
-/

namespace TickTree.Text

/-- The ranges of the property White_Space, first and last code point included. -/
def blankRanges : List (Nat × Nat) :=
  [(0x9, 0xd), (0x20, 0x20), (0x85, 0x85), (0xa0, 0xa0), (0x1680, 0x1680), (0x2000, 0x200a),
    (0x2028, 0x2029), (0x202f, 0x202f), (0x205f, 0x205f), (0x3000, 0x3000)]

/-- A character with the property White_Space. -/
def isBlank (c : Char) : Bool :=
  blankRanges.any fun (first, last) => first ≤ c.toNat && c.toNat ≤ last

/-- A text without the blanks at its two ends. -/
def trim (text : List Char) : List Char :=
  ((text.dropWhile isBlank).reverse.dropWhile isBlank).reverse

end TickTree.Text
