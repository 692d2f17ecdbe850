/-!
# Hexadecimal digits

* `Hex.value?`: the value of a digit in either letter case.
* `Hex.digit`, `Hex.upperDigit`: the digit of a value below sixteen.
* `Hex.digits`: a number in lower case, with no leading zero.
-/

namespace TagQuery.Text.Hex

/-- The digit of a value below sixteen, in lower case. -/
def digit (n : Nat) : Char :=
  Nat.digitChar n

/-- The digit of a value below sixteen, in upper case. -/
def upperDigit (n : Nat) : Char :=
  (digit n).toUpper

/-- The value of a hexadecimal digit. -/
def value? (c : Char) : Option Nat :=
  if '0' ≤ c && c ≤ '9' then some (c.toNat - '0'.toNat)
  else if 'a' ≤ c && c ≤ 'f' then some (c.toNat - 'a'.toNat + 10)
  else if 'A' ≤ c && c ≤ 'F' then some (c.toNat - 'A'.toNat + 10)
  else none

/-- A number in hexadecimal. -/
def digits (n : Nat) : List Char :=
  if n < 16 then [digit n] else digits (n / 16) ++ [digit (n % 16)]

/-- The number that the digits `text` make up after `acc`, if all of them are digits. -/
def read? (text : List Char) (acc : Nat) : Option Nat :=
  match text with
  | [] => some acc
  | c :: rest => (value? c).bind fun d => read? rest (16 * acc + d)

theorem value?_digit : ∀ n < 16, value? (digit n) = some n := by
  decide

theorem value?_upperDigit : ∀ n < 16, value? (upperDigit n) = some n := by
  decide

end TagQuery.Text.Hex
