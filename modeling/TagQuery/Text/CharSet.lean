/-!
# Sets of characters

* `CharSet`: a set of characters, as closed ranges of code points.
* `isControl`: the control characters, which no message may show as they are.
* `isBlank`: the characters that count as white space around a setting.
-/

namespace TagQuery.Text

/-- Closed ranges of code points. -/
abbrev CharSet := List (Nat × Nat)

/-- Whether a character lies in one of the ranges. -/
def CharSet.contains (ranges : CharSet) (c : Char) : Bool :=
  ranges.any fun (low, high) => low ≤ c.toNat && c.toNat ≤ high

/-- Control characters: U+0000 to U+001F and U+007F to U+009F. -/
def isControl (c : Char) : Bool :=
  CharSet.contains [(0x00, 0x1F), (0x7F, 0x9F)] c

/-- The characters with the property White_Space. -/
def whiteSpace : CharSet := [
  (0x09, 0x0D), (0x20, 0x20), (0x85, 0x85), (0xA0, 0xA0), (0x1680, 0x1680), (0x2000, 0x200A),
  (0x2028, 0x2029), (0x202F, 0x202F), (0x205F, 0x205F), (0x3000, 0x3000)]

/-- Whether a character is white space. -/
def isBlank (c : Char) : Bool :=
  whiteSpace.contains c

/-- A text without the white space at its two ends. -/
def trim (text : List Char) : List Char :=
  ((text.dropWhile isBlank).reverse.dropWhile isBlank).reverse

end TagQuery.Text
