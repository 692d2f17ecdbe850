import TagQuery.Expr.Parser
import TagQuery.Rejection

/-!
# The query language, alternative by alternative

    query    = operand gap "AND" gap query
             / operand gap "OR" gap query
             / operand gap "XOR" gap query
             / gap "NOT" gap operand
             / operand
    operand  = tag / "(" query ")"
    tag      = "s:" value "+s"? / "k:" value / "c:" value / "r:/" pattern "/"
    value    = [a-zA-Z0-9]+ / '"' [^"]+ '"'
    pattern  = [a-zA-Z0-9_ \^$*+?.()]+
    gap      = [ ]*

`Textbook.parse` follows these rules to the letter: every alternative begins at the start again, and
a repetition tries one character at a time. It knows no nesting limit.
-/

namespace TagQuery.Textbook

open TagQuery.Parser (terminal orElse optional tooDeep)

/-! ## Repetition -/

/-- One character of a class. -/
def character (cls : CharClass) : Parser Char := fun cursor =>
  match cursor.rest with
  | c :: rest =>
    if cls.contains c then ⟨.done c ⟨cursor.column + 1, rest⟩, .empty⟩
    else ⟨.mismatch, .missed cursor.column (.character cls)⟩
  | [] => ⟨.mismatch, .missed cursor.column (.character cls)⟩

/-- Characters of a class, as many as there are but at most `count`. -/
def repeated (cls : CharClass) (count : Nat) : Parser (List Char) :=
  match count with
  | 0 => return []
  | count + 1 => do
    match ← optional (character cls) with
    | some c => return c :: (← repeated cls count)
    | none => return []

/-- Characters of a class, as many as there are. -/
def star (cls : CharClass) : Parser (List Char) := fun cursor =>
  repeated cls (cursor.rest.length + 1) cursor

/-- One or more characters of a class, as many as there are. -/
def plus (cls : CharClass) : Parser String := do
  let first ← character cls
  return String.ofList (first :: (← star cls))

/-! ## Rules -/

def gap : Parser Unit := do
  let _ ← star .space
  return ()

def quotedValue : Parser String := do
  terminal (.symbol .quotationMark)
  let text ← plus .unquoted
  terminal (.symbol .quotationMark)
  return text

def value : Parser String :=
  orElse (plus .word) quotedValue

def semanticTag : Parser Tag := do
  terminal (.symbol (.opening .semantic))
  let text ← value
  let synonyms ← optional (terminal (.symbol .synonyms))
  return .semantic text synonyms.isSome

def keywordTag : Parser Tag := do
  terminal (.symbol (.opening .keyword))
  return .keyword (← value)

def commentTag : Parser Tag := do
  terminal (.symbol (.opening .comment))
  return .comment (← value)

def regexTag : Parser Tag := do
  terminal (.symbol (.opening .regex))
  let text ← plus .pattern
  terminal (.symbol .patternEnd)
  return .regex text

def tag : Parser Tag :=
  orElse semanticTag (orElse keywordTag (orElse commentTag regexTag))

def group (query : Parser Expr) : Parser Expr := do
  terminal (.symbol .groupOpen)
  let e ← query
  terminal (.symbol .groupClose)
  return e

def operand (query : Parser Expr) : Parser Expr :=
  orElse (do return .tag (← tag)) (group query)

/-- The alternative for one operator. -/
def joined (op : Operator) (query : Parser Expr) : Parser Expr := do
  let left ← operand query
  gap
  terminal (.keyword (.operator op))
  gap
  return .binary op left (← query)

def negated (query : Parser Expr) : Parser Expr := do
  gap
  terminal (.keyword .not)
  gap
  return .negation (← operand query)

/-- A query in which queries nest less than `depth` deep. -/
def query (depth : Nat) : Parser Expr :=
  match depth with
  | 0 => tooDeep
  | depth + 1 =>
    orElse (joined .and (query depth)) <|
      orElse (joined .or (query depth)) <|
        orElse (joined .xor (query depth)) <|
          orElse (negated (query depth)) (operand (query depth))

/-- A query that is all of the text. -/
def wholeQuery (depth : Nat) : Parser Expr := do
  let e ← query depth
  terminal .endOfInput
  return e

/-- Reads a query. Each query inside another begins after at least one character, so none nests
deeper than the text is long. -/
def parse (text : String) : Except Rejection Expr :=
  let depth := text.length + 1
  let outcome := wholeQuery depth (Cursor.start text)
  match outcome.reply with
  | .done e _ => .ok e
  | .mismatch => .error (.ofTrace text.toList outcome.trace)
  | .tooDeep column => .error (.tooDeep column depth)

end TagQuery.Textbook
