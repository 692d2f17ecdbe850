/-!
# Decimal numbers

* `Decimal.readUnsigned`: a number written in ASCII digits, perhaps after a plus sign, within a
  bound. What is wrong first, from left to right, is what is reported.
* `Decimal.Fault`: what can be wrong, with its wording.
-/

namespace TagQuery.Text.Decimal

/-- Why a text is no number. -/
inductive Fault where
  | empty
  | invalidDigit
  | tooLarge
  deriving DecidableEq

/-- The wording of a fault. -/
def Fault.text : Fault → String
  | empty => "cannot parse integer from empty string"
  | invalidDigit => "invalid digit found in string"
  | tooLarge => "number too large to fit in target type"

/-- The value of an ASCII digit. -/
def digitValue? (c : Char) : Option Nat :=
  if c.isDigit then some (c.toNat - '0'.toNat) else none

/-- The number that `digits` make up after the digits of `acc`, if it stays below `bound`. -/
def readDigits (bound : Nat) (digits : List Char) (acc : Nat) : Except Fault Nat :=
  match digits with
  | [] => .ok acc
  | c :: rest =>
    match digitValue? c with
    | none => .error .invalidDigit
    | some d =>
      if 10 * acc + d < bound then readDigits bound rest (10 * acc + d) else .error .tooLarge

/-- A number below `bound`. A minus sign is no part of it, not even of zero. -/
def readUnsigned (bound : Nat) (text : List Char) : Except Fault Nat :=
  match text with
  | [] => .error .empty
  | ['+'] => .error .invalidDigit
  | '+' :: digits => readDigits bound digits 0
  | digits => readDigits bound digits 0

end TagQuery.Text.Decimal
