import TagQuery.Text.Hex
import TagQuery.Toml.Item

/-!
# Numbers, truth values and times of TOML

A scalar without quotation marks is as long a run of letters, digits and the marks `+ - _ . :` as
there is, so each form is a condition on a whole word.

* `Toml.readInteger?`: a decimal integer with an optional sign, or a hexadecimal, octal or binary
  one without; underscores stand between digits only. It has to fit in 64 bits with a sign.
* `Toml.isFloat`: a decimal with a fraction, an exponent or both, or one of the special values. One
  too large for a double is refused.
* `Toml.isDate`, `Toml.isTime`, `Toml.isDateTime`: dates of the calendar and times of the day.
* `Toml.readScalar?`: any of them at the start of a text, and what follows it.
-/

namespace TagQuery.Toml

/-- The characters of an unquoted scalar. -/
def isScalarChar (c : Char) : Bool :=
  c.isAlphanum || ['+', '-', '_', '.', ':'].contains c

/-! ## Integers -/

/-- The value of a digit in a base up to sixteen. -/
def digitValue? (base : Nat) (c : Char) : Option Nat :=
  (Text.Hex.value? c).filter (· < base)

/-- The number that the rest of its digits make up after `acc`; an underscore has a digit on either
side. -/
def readRest? (base : Nat) (word : List Char) (acc : Nat) : Option Nat :=
  match word with
  | [] => some acc
  | '_' :: c :: rest => (digitValue? base c).bind fun d => readRest? base rest (base * acc + d)
  | c :: rest => (digitValue? base c).bind fun d => readRest? base rest (base * acc + d)

/-- A number in a base, of one or more digits. -/
def readNumber? (base : Nat) (word : List Char) : Option Nat :=
  match word with
  | [] => none
  | c :: rest => (digitValue? base c).bind fun d => readRest? base rest d

/-- A decimal number, which begins with zero only if it is zero. -/
def readDecimal? (word : List Char) : Option Nat :=
  match word with
  | '0' :: _ :: _ => none
  | word => readNumber? 10 word

/-- An integer of any size. -/
def readAnyInteger? (word : List Char) : Option Int :=
  match word with
  | '0' :: 'x' :: digits => (readNumber? 16 digits).map Int.ofNat
  | '0' :: 'o' :: digits => (readNumber? 8 digits).map Int.ofNat
  | '0' :: 'b' :: digits => (readNumber? 2 digits).map Int.ofNat
  | '+' :: digits => (readDecimal? digits).map Int.ofNat
  | '-' :: digits => (readDecimal? digits).map fun n => -Int.ofNat n
  | digits => (readDecimal? digits).map Int.ofNat

/-- Whether an integer fits in 64 bits with a sign. -/
def fitsInteger (n : Int) : Bool :=
  match n with
  | .ofNat m => m < Nat.pow 2 63
  | .negSucc m => m < Nat.pow 2 63

/-- An integer. -/
def readInteger? (word : List Char) : Option Int :=
  (readAnyInteger? word).filter fitsInteger

/-! ## Floats -/

/-- A sign, if there is one, and what follows it. -/
def splitSign (word : List Char) : Bool × List Char :=
  match word with
  | '-' :: rest => (true, rest)
  | '+' :: rest => (false, rest)
  | rest => (false, rest)

/-- Halfway between the largest double and the next power of two: what is not below is infinite. -/
def firstInfinite : Nat :=
  Nat.pow 2 1024 - Nat.pow 2 970

/-- Whether `digits` with value `n`, scaled by ten to the power `exponent`, round to infinity as a
double. -/
def roundsToInfinity (n digits : Nat) (exponent : Int) : Bool :=
  match exponent with
  | .ofNat e => if e ≤ 310 then firstInfinite ≤ n * Nat.pow 10 e else n ≠ 0
  | .negSucc e => e < digits && firstInfinite * Nat.pow 10 (e + 1) ≤ n

/-- The parts of a float as they are written. -/
structure FloatWord where
  negative : Bool
  whole : List Char
  fraction : Option (List Char)
  exponent : Option (List Char)

/-- A word up to the first of some marks, and what follows the mark if there is one. -/
def splitAtMark (isMark : Char → Bool) (word : List Char) : List Char × Option (List Char) :=
  (word.takeWhile (!isMark ·), (word.dropWhile (!isMark ·)).tail?)

/-- Takes a float apart. -/
def FloatWord.ofWord (word : List Char) : FloatWord :=
  let (negative, unsigned) := splitSign word
  let (mantissa, exponent) := splitAtMark (fun c => c == 'e' || c == 'E') unsigned
  let (whole, fraction) := splitAtMark (· == '.') mantissa
  { negative, whole, fraction, exponent }

/-- The value of the exponent, which is zero if none is written. -/
def FloatWord.exponent? (float : FloatWord) : Option Int :=
  match float.exponent with
  | none => some 0
  | some word =>
    let (negative, digits) := splitSign word
    (readNumber? 10 digits).map fun n => if negative then -Int.ofNat n else Int.ofNat n

/-- Whether a float is well formed, with a fraction, an exponent or both, and not too large. -/
def FloatWord.isValid (float : FloatWord) : Bool :=
  let fraction := (float.fraction.getD []).filter Char.isDigit
  let digits := float.whole.filter Char.isDigit ++ fraction
  (float.fraction.isSome || float.exponent.isSome) &&
    (readDecimal? float.whole).isSome &&
    float.fraction.all (fun word => (readNumber? 10 word).isSome) &&
    float.exponent?.any fun exponent =>
      float.negative ||
        !(roundsToInfinity ((readNumber? 10 digits).getD 0) digits.length
          (exponent - fraction.length))

/-- Whether a word is a float. -/
def isFloat (word : List Char) : Bool :=
  let (_, unsigned) := splitSign word
  (FloatWord.ofWord word).isValid || unsigned == "inf".toList || unsigned == "nan".toList

/-! ## Dates and times -/

/-- The value of a field that consists of digits alone. -/
def fieldValue? (field : List Char) : Option Nat :=
  if field.all Char.isDigit then readNumber? 10 field else none

/-- Whether a field of digits has a value between two bounds, both included. -/
def inField (field : List Char) (low high : Nat) : Bool :=
  (fieldValue? field).any fun n => low ≤ n && n ≤ high

/-- How many days a month of a year has. -/
def daysInMonth (year month : Nat) : Nat :=
  if month = 2 then
    if year % 4 = 0 ∧ (year % 100 ≠ 0 ∨ year % 400 = 0) then 29 else 28
  else if [4, 6, 9, 11].contains month then 30
  else 31

/-- Whether a word is a date of the calendar. -/
def isDate (word : List Char) : Bool :=
  match word with
  | [y₁, y₂, y₃, y₄, '-', m₁, m₂, '-', d₁, d₂] =>
    (fieldValue? [y₁, y₂, y₃, y₄]).any fun year =>
      inField [m₁, m₂] 1 12 && inField [d₁, d₂] 1 (daysInMonth year ((fieldValue? [m₁, m₂]).getD 0))
  | _ => false

/-- Whether a word is nothing or an offset from universal time. -/
def isOffset (word : List Char) : Bool :=
  match word with
  | [] | ['Z'] | ['z'] => true
  | [sign, h₁, h₂, ':', m₁, m₂] =>
    (sign == '+' || sign == '-') && inField [h₁, h₂] 0 23 && inField [m₁, m₂] 0 59
  | _ => false

/-- Whether a word is a time of the day that ends in something of which `ending` holds. The last
second of a minute may be a leap second. -/
def isTime (ending : List Char → Bool) (word : List Char) : Bool :=
  match word with
  | h₁ :: h₂ :: ':' :: m₁ :: m₂ :: ':' :: s₁ :: s₂ :: rest =>
    inField [h₁, h₂] 0 23 && inField [m₁, m₂] 0 59 && inField [s₁, s₂] 0 60 &&
      match rest with
      | '.' :: fraction =>
        !(fraction.takeWhile Char.isDigit).isEmpty && ending (fraction.dropWhile Char.isDigit)
      | rest => ending rest
  | _ => false

/-- Whether a word is a date, a time, or a date and a time joined by the letter T. -/
def isDateTime (word : List Char) : Bool :=
  isDate word || isTime List.isEmpty word ||
    isDate (word.take 10) &&
      match word.drop 10 with
      | 'T' :: time | 't' :: time => isTime isOffset time
      | _ => false

/-! ## Scalars -/

/-- The value of a word. -/
def scalar? (word : List Char) : Option Item :=
  if word = "true".toList then some (.boolean true)
  else if word = "false".toList then some (.boolean false)
  else if isDateTime word then some (.dateTime (String.ofList word))
  else if isFloat word then some (.float (String.ofList word))
  else (readInteger? word).map .integer

/-- An unquoted scalar, and what follows it. A date may be joined to a time by a single space. -/
def readScalar? (text : List Char) : Option (Item × List Char) :=
  let word := text.takeWhile isScalarChar
  let rest := text.dropWhile isScalarChar
  let time := (rest.drop 1).takeWhile isScalarChar
  if isDate word && rest.take 1 == [' '] && isTime isOffset time then
    some (.dateTime (String.ofList (word ++ ' ' :: time)), (rest.drop 1).dropWhile isScalarChar)
  else (scalar? word).map (·, rest)

end TagQuery.Toml
