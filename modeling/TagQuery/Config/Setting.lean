import TagQuery.Text.CharSet

/-!
# How a setting spells a number

* `IsNumeral`: the spellings of a number, with as many zeros in front as one likes.
* `AsksFor`: a numeral with white space around it.
-/

namespace TagQuery.Config

/-- The spellings of a number: ASCII digits, one at least, perhaps after a plus sign. -/
inductive IsNumeral : (text : List Char) → (n : Nat) → Prop where
  | unsigned {digits : List Char} (nonempty : digits ≠ []) (ascii : ∀ c ∈ digits, c.isDigit) :
      IsNumeral digits (Nat.ofDigitChars 10 digits 0)
  | plus {digits : List Char} (nonempty : digits ≠ []) (ascii : ∀ c ∈ digits, c.isDigit) :
      IsNumeral ('+' :: digits) (Nat.ofDigitChars 10 digits 0)

/-- The setting is a numeral for the number, and around it is nothing but white space. -/
def AsksFor (raw : String) (n : Nat) : Prop :=
  ∃ before numeral after, raw.toList = before ++ numeral ++ after ∧ IsNumeral numeral n ∧
    (∀ c ∈ before, Text.isBlank c) ∧ ∀ c ∈ after, Text.isBlank c

end TagQuery.Config
