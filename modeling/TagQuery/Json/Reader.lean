import TagQuery.Json.Value
import TagQuery.Text.Separated

/-!
# Reading JSON

* `Json.readValue?`: a value at the start of a text, and what follows it.
* `Json.parse?`: the value that a whole text is, with white space around it.
-/

namespace TagQuery.Json

/-- The white space of JSON. -/
def isBlank (c : Char) : Bool :=
  c == ' ' || c == '\t' || c == '\n' || c == '\r'

/-- What follows white space. -/
def skipBlanks (text : List Char) : List Char :=
  text.dropWhile isBlank

/-- What follows one character. -/
def skipChar? (c : Char) (text : List Char) : Option (List Char) :=
  match text with
  | d :: rest => if d = c then some rest else none
  | [] => none

/-! ## Numbers and names -/

/-- Whether a word is one or more digits. -/
def isDigits (word : List Char) : Bool :=
  !word.isEmpty && word.all Char.isDigit

/-- Whether a word is nothing or an exponent. -/
def isExponent (word : List Char) : Bool :=
  match word with
  | [] => true
  | e :: '+' :: digits | e :: '-' :: digits => (e == 'e' || e == 'E') && isDigits digits
  | e :: digits => (e == 'e' || e == 'E') && isDigits digits

/-- Whether a word is nothing or what may follow the whole part of a number. -/
def isFraction (word : List Char) : Bool :=
  match word with
  | '.' :: rest =>
    isDigits (rest.takeWhile Char.isDigit) && isExponent (rest.dropWhile Char.isDigit)
  | rest => isExponent rest

/-- Whether a word is a number. -/
def isNumber (word : List Char) : Bool :=
  let unsigned := match word with
    | '-' :: rest => rest
    | rest => rest
  match unsigned with
  | '0' :: rest => isFraction rest
  | rest =>
    isDigits (rest.takeWhile Char.isDigit) && isFraction (rest.dropWhile Char.isDigit)

/-- The characters of numbers and names. -/
def isWordChar (c : Char) : Bool :=
  c.isAlphanum || c == '+' || c == '-' || c == '.'

/-- The value that a number or a name stands for. -/
def word? (word : List Char) : Option Value :=
  if word = "null".toList then some .null
  else if word = "true".toList then some (.bool true)
  else if word = "false".toList then some (.bool false)
  else if isNumber word then some (.number (String.ofList word))
  else none

/-! ## Values -/

/-- The items of an array after its opening bracket, and what follows it. -/
def readArray? (value : List Char → Option (Value × List Char)) (text : List Char) :
    Option (Value × List Char) :=
  match Text.readSeparated? element ',' text with
  | none => (skipChar? ']' (skipBlanks text)).map (.array [], ·)
  | some (items, rest) => (skipChar? ']' rest).map (.array items, ·)
where
  /-- An item with the white space around it, and what follows. -/
  element (text : List Char) : Option (Value × List Char) := do
    let (item, rest) ← value (skipBlanks text)
    return (item, skipBlanks rest)

/-- The fields of an object after its opening brace, and what follows it. -/
def readObject? (value : List Char → Option (Value × List Char)) (text : List Char) :
    Option (Value × List Char) :=
  match Text.readSeparated? field ',' text with
  | none => (skipChar? '}' (skipBlanks text)).map (.object [], ·)
  | some (fields, rest) => (skipChar? '}' rest).map (.object fields, ·)
where
  /-- A key with its value and the white space around them, and what follows. -/
  field (text : List Char) : Option ((String × Value) × List Char) := do
    let (key, rest) ← readLiteral? (skipBlanks text)
    let rest ← skipChar? ':' (skipBlanks rest)
    let (item, rest) ← value (skipBlanks rest)
    return ((key, item), skipBlanks rest)

/-- A value in which arrays and objects nest at most `levels` deep, and what follows it. -/
def readValue? (levels : Nat) (text : List Char) : Option (Value × List Char) :=
  match text, levels with
  | '"' :: _, _ => (readLiteral? text).map fun (s, rest) => (.string s, rest)
  | '[' :: rest, below + 1 => readArray? (readValue? below) rest
  | '{' :: rest, below + 1 => readObject? (readValue? below) rest
  | text, _ => (word? (text.takeWhile isWordChar)).map (·, text.dropWhile isWordChar)

/-- The value that a text is. No text nests deeper than it is long. -/
def parse? (text : String) : Option Value := do
  let (value, rest) ← readValue? text.length (skipBlanks text.toList)
  if (skipBlanks rest).isEmpty then return value else none

end TagQuery.Json
