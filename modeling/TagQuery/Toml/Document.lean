import TagQuery.Text.Separated
import TagQuery.Toml.Scalar
import TagQuery.Toml.Text

/-!
# TOML documents

* `Toml.readKey?`: a key, whose parts are bare or quoted and are joined by dots.
* `Toml.readValue?`: a value. Arrays may run over several lines, inline tables may not.
* `Toml.Document`: the entries defined so far, and the header under which the next line defines.
* `Toml.parse?`: the entries of a whole document.
-/

namespace TagQuery.Toml

/-- Keys have fewer parts, and arrays and inline tables nest less, than this. -/
def nestingLimit : Nat := 80

/-! ## Keys -/

def isBareKeyChar (c : Char) : Bool :=
  c.isAlphanum || c == '-' || c == '_'

/-- One part of a key, and what follows it. -/
def readKeyPart? (text : List Char) : Option (String × List Char) :=
  match text with
  | '"' :: _ => readSingle? '"' text
  | '\x27' :: _ => readSingle? '\x27' text
  | text =>
    let name := text.takeWhile isBareKeyChar
    if name.isEmpty then none else some (String.ofList name, text.dropWhile isBareKeyChar)

/-- A key with the blanks around its parts, and what follows. -/
def readKey? (text : List Char) : Option (List String × List Char) := do
  let (path, rest) ← Text.readSeparated? part '.' text
  if path.length < nestingLimit then return (path, rest) else none
where
  /-- A part of a key with the blanks around it, and what follows. -/
  part (text : List Char) : Option (String × List Char) := do
    let (name, rest) ← readKeyPart? (skipBlanks text)
    return (name, skipBlanks rest)

/-! ## Values -/

/-- The items of an array after its opening bracket, and what follows it. A comma may stand after
the last item. -/
def readArray? (value : List Char → Option (Item × List Char)) (text : List Char) :
    Option (Item × List Char) :=
  match Text.readSeparated? element ',' text with
  | none => (close? text).map (.array [], ·)
  | some (items, rest) =>
    let rest := match rest with
      | ',' :: rest => rest
      | rest => rest
    (close? rest).map (.array items, ·)
where
  /-- An item with what may stand around it, and what follows. -/
  element (text : List Char) : Option (Item × List Char) := do
    let (item, rest) ← value (skipTrivia text)
    return (item, skipTrivia rest)
  /-- What follows the closing bracket. -/
  close? (text : List Char) : Option (List Char) :=
    match skipTrivia text with
    | ']' :: rest => some rest
    | _ => none

/-- A key with its value, and what follows. -/
def readPair? (value : List Char → Option (Item × List Char)) (text : List Char) :
    Option ((List String × Item) × List Char) := do
  let (path, rest) ← readKey? text
  match rest with
  | '=' :: rest =>
    let (item, rest) ← value (skipBlanks rest)
    return ((path, item), rest)
  | _ => none

/-- The entries of an inline table after its opening brace, and what follows it. -/
def readInlineTable? (value : List Char → Option (Item × List Char)) (text : List Char) :
    Option (Item × List Char) :=
  match Text.readSeparated? pair ',' text with
  | none => (close? (skipBlanks text)).map (.inlineTable [], ·)
  | some (pairs, rest) => do
    let entries ← pairs.foldlM (fun entries (path, item) => Entries.assign? path item entries) []
    (close? rest).map (.inlineTable entries, ·)
where
  /-- A key with its value and the blanks after it, and what follows. -/
  pair (text : List Char) : Option ((List String × Item) × List Char) := do
    let (pair, rest) ← readPair? value text
    return (pair, skipBlanks rest)
  /-- What follows the closing brace. -/
  close? : List Char → Option (List Char)
    | '}' :: rest => some rest
    | _ => none

/-- A value in which arrays and inline tables nest at most `levels` deep, and what follows it. -/
def readValue? (levels : Nat) (text : List Char) : Option (Item × List Char) :=
  match text, levels with
  | '"' :: _, _ => (readText? '"' text).map fun (s, rest) => (.string s, rest)
  | '\x27' :: _, _ => (readText? '\x27' text).map fun (s, rest) => (.string s, rest)
  | '[' :: rest, below + 1 => readArray? (readValue? below) rest
  | '{' :: rest, below + 1 => readInlineTable? (readValue? below) rest
  | text, _ => readScalar? text

/-! ## Documents -/

/-- A document as far as it has been read. -/
structure Document where
  /-- The entries of the root table. -/
  entries : Entries := []
  /-- The path of the table to which the next line adds. -/
  header : List String := []

/-- Reads the header of a table after its opening bracket. -/
def Document.readHeader? (doc : Document) (text : List Char) : Option (Document × List Char) := do
  let (path, rest) ← readKey? text
  match rest with
  | ']' :: rest => return (⟨← doc.entries.openTable? path, path⟩, ← lineEnd? rest)
  | _ => none

/-- Reads the header of an array element after its opening brackets. -/
def Document.readElement? (doc : Document) (text : List Char) : Option (Document × List Char) := do
  let (path, rest) ← readKey? text
  match rest with
  | ']' :: ']' :: rest => return (⟨← doc.entries.openElement? path, path⟩, ← lineEnd? rest)
  | _ => none

/-- Reads a key with its value. -/
def Document.readEntry? (doc : Document) (text : List Char) : Option (Document × List Char) := do
  let ((path, item), rest) ← readPair? (readValue? (nestingLimit - 1)) text
  let entries ← doc.entries.modify? doc.header (Entries.assign? path item)
  return ({ doc with entries }, ← lineEnd? rest)

/-- Reads one line, or one entry that runs over several, after the blanks before it. -/
def Document.readLine? (doc : Document) (text : List Char) : Option (Document × List Char) :=
  match text with
  | '#' :: _ | '\n' :: _ | '\r' :: _ => (lineEnd? text).map (doc, ·)
  | '[' :: '[' :: rest => doc.readElement? rest
  | '[' :: rest => doc.readHeader? rest
  | text => doc.readEntry? text

/-- Reads the rest of a document. -/
def Document.read? (doc : Document) (text : List Char) : Option Document :=
  if (skipBlanks text).isEmpty then some doc
  else
    match doc.readLine? (skipBlanks text) with
    | none => none
    | some (doc, rest) => if _h : rest.length < text.length then doc.read? rest else none
termination_by text.length

/-- The entries of a document, which may begin with a byte order mark. -/
def parse? (text : String) : Option Entries :=
  let body := match text.toList with
    | '\uFEFF' :: rest => rest
    | all => all
  (Document.read? {} body).map (·.entries)

end TagQuery.Toml
