import TagQuery.Text.Hex

/-!
# Strings, blanks and comments of TOML

* `Toml.readText?`: a string in any of its four forms, and what follows it. Between double quotation
  marks escapes are read; between single ones nothing is. Tripled marks allow line breaks, and one
  or two marks may stand right before the closing three.
* `Toml.skipBlanks`, `Toml.skipTrivia`: what follows blanks, or blanks, line breaks and comments.
* `Toml.lineEnd?`: what follows the end of a line.
-/

namespace TagQuery.Toml

/-- The characters that may stand as they are in comments and, their marks apart, in strings. -/
def isPlain (c : Char) : Bool :=
  c == '\t' || (0x20 ≤ c.toNat && c.toNat != 0x7F)

def isBlank (c : Char) : Bool :=
  c == ' ' || c == '\t'

/-- What follows blanks. -/
def skipBlanks (text : List Char) : List Char :=
  text.dropWhile isBlank

/-- What follows a line break. -/
def skipBreak? : List Char → Option (List Char)
  | '\n' :: rest => some rest
  | '\r' :: '\n' :: rest => some rest
  | _ => none

/-- What follows a comment, if there is one here. -/
def skipComment (text : List Char) : List Char :=
  match text with
  | '#' :: rest => rest.dropWhile isPlain
  | rest => rest

/-- What follows the end of a line: blanks, perhaps a comment, and a line break or the end of the
document. -/
def lineEnd? (text : List Char) : Option (List Char) :=
  match skipComment (skipBlanks text) with
  | [] => some []
  | rest => skipBreak? rest

/-- What follows blanks, line breaks and comments. -/
def skipTrivia (text : List Char) : List Char :=
  match text with
  | [] => []
  | '\r' :: '\n' :: rest => skipTrivia rest
  | c :: rest =>
    if isBlank c || c == '\n' then skipTrivia rest
    else if c == '#' then skipTrivia (rest.dropWhile isPlain)
    else c :: rest
termination_by text.length
decreasing_by
  · simp only [List.length_cons]
    omega
  · simp only [List.length_cons]
    omega
  · have := (List.dropWhile_sublist isPlain (l := rest)).length_le
    simp only [List.length_cons]
    omega

/-- What follows blanks and line breaks. -/
def skipBreaks : List Char → List Char
  | '\r' :: '\n' :: rest => skipBreaks rest
  | c :: rest => if isBlank c || c == '\n' then skipBreaks rest else c :: rest
  | [] => []

/-! ## Strings -/

/-- The character with a code point written in hexadecimal. -/
def codePoint? (digits : List Char) : Option Char := do
  let n ← Text.Hex.read? digits 0
  if n.isValidChar then return Char.ofNat n else none

/-- The character after a backslash, and the width of what stands for it. -/
def unescape? : List Char → Option (Char × Nat)
  | 'b' :: _ => some ('\x08', 1)
  | 'f' :: _ => some ('\x0c', 1)
  | 'n' :: _ => some ('\n', 1)
  | 'r' :: _ => some ('\r', 1)
  | 't' :: _ => some ('\t', 1)
  | '\\' :: _ => some ('\\', 1)
  | '"' :: _ => some ('"', 1)
  | 'u' :: a :: b :: c :: d :: _ => (codePoint? [a, b, c, d]).map (·, 5)
  | 'U' :: a :: b :: c :: d :: e :: f :: g :: h :: _ =>
    (codePoint? [a, b, c, d, e, f, g, h]).map (·, 9)
  | _ => none

/-- Puts a character before the text of what follows it. -/
def consText (c : Char) (read : Option (List Char × List Char)) : Option (List Char × List Char) :=
  read.map fun (text, rest) => (c :: text, rest)

/-- A string on one line up to its closing mark, and what follows it. -/
def readLine? (mark : Char) (text : List Char) : Option (List Char × List Char) :=
  match text with
  | [] => none
  | c :: rest =>
    if c = mark then some ([], rest)
    else if c = '\\' && mark = '"' then
      match unescape? rest with
      | some (c, width) => consText c (readLine? mark (rest.drop width))
      | none => none
    else if isPlain c then consText c (readLine? mark rest)
    else none
termination_by text.length
decreasing_by all_goals simp only [List.length_cons, List.length_drop]; omega

/-- What a run of marks inside or at the end of a string over several lines is worth: `none` if it
closes nothing, and else how many of the first marks belong to the text. -/
def closingMarks? (mark : Char) (text : List Char) : Option Nat :=
  let marks := (text.takeWhile (· == mark)).length
  if 3 ≤ marks then some (min (marks - 3) 2) else none

/-- A string over several lines up to its closing marks, and what follows it. A backslash at the end
of a line takes away all white space up to the next text. -/
def readLines? (mark : Char) (text : List Char) : Option (List Char × List Char) :=
  match text with
  | [] => none
  | '\r' :: '\n' :: rest => consText '\n' (readLines? mark rest)
  | c :: rest =>
    if c = mark then
      match closingMarks? mark text with
      | some inside => some (List.replicate inside mark, text.drop (inside + 3))
      | none => consText c (readLines? mark rest)
    else if c = '\\' && mark = '"' then
      match unescape? rest with
      | some (c, width) => consText c (readLines? mark (rest.drop width))
      | none =>
        match skipBreak? (skipBlanks rest) with
        | none => none
        | some next =>
          if _h : (skipBreaks next).length ≤ rest.length then readLines? mark (skipBreaks next)
          else none
    else if isPlain c || c == '\n' then consText c (readLines? mark rest)
    else none
termination_by text.length
decreasing_by all_goals simp only [List.length_cons, List.length_drop]; omega

/-- A string with one mark, and what follows it. -/
def readSingle? (mark : Char) : List Char → Option (String × List Char)
  | c :: rest =>
    if c = mark then (readLine? mark rest).map fun (text, rest) => (String.ofList text, rest)
    else none
  | [] => none

/-- A string in any form, and what follows it. A line break right after tripled marks is no part of
the text. -/
def readText? (mark : Char) (text : List Char) : Option (String × List Char) :=
  if text.take 3 = [mark, mark, mark] then
    let body := text.drop 3
    (readLines? mark ((skipBreak? body).getD body)).map fun (text, rest) =>
      (String.ofList text, rest)
  else readSingle? mark text

end TagQuery.Toml
