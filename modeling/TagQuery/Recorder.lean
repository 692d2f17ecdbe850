import TagQuery.Parser
import TagQuery.Text.Offset

/-!
# Parsers with a record of what they do

* `Step`: an act, with the column where it begins.
* `Recorded`: a parser, with the steps that it takes from a cursor on. Steps stay on record when
  they come to nothing and another alternative begins at the same place.
* The combinators are those of `Parser`, each with its steps; `marked` adds one.
* `Step.position`, `Step.sum`: where a step takes place, in bytes, and the number that it works out.
-/

namespace TagQuery

/-- An act, with the column where it begins. -/
structure Step where
  column : Nat
  act : Act
  deriving DecidableEq

/-- How many bytes a terminal takes up at most. -/
def Terminal.bytes : Terminal → Nat
  | symbol s => s.text.utf8ByteSize
  | keyword k => k.text.utf8ByteSize
  | character _ => 4
  | endOfInput => 0

namespace Step

/-- How many bytes of the text come before a step. -/
def position (text : String) (step : Step) : Nat :=
  Text.offset text.toList step.column

/-- The number that a step works out: the level of a link, the level below an operand or a
negation, the position after a terminal. -/
def sum (text : String) (step : Step) : Nat :=
  match step.act with
  | .link depth links => depth + links
  | .operand level => level + 1
  | .negation level => level + 1
  | .lookFor t => step.position text + t.bytes

end Step

/-- A parser, with the steps that it takes from a cursor on. -/
structure Recorded (α : Type) where
  parser : Parser α
  steps : Cursor → List Step

namespace Recorded

variable {α β : Type}

def pure (value : α) : Recorded α where
  parser := .pure value
  steps _ := []

def bind (p : Recorded α) (f : α → Recorded β) : Recorded β where
  parser := p.parser.bind fun value => (f value).parser
  steps cursor := p.steps cursor ++
    match (p.parser cursor).reply with
    | .done value next => (f value).steps next
    | _ => []

def orElse (p q : Recorded α) : Recorded α where
  parser := p.parser.orElse q.parser
  steps cursor := p.steps cursor ++
    match (p.parser cursor).reply with
    | .mismatch => q.steps cursor
    | _ => []

def optional (p : Recorded α) : Recorded (Option α) where
  parser := p.parser.optional
  steps := p.steps

def tooDeep : Recorded α where
  parser := .tooDeep
  steps _ := []

def terminal (t : Terminal) : Recorded Unit where
  parser := .terminal t
  steps cursor := [⟨cursor.column, .lookFor t⟩]

/-- The class is looked for at every character of it that comes next, and where they end. -/
def stepsThrough (cls : CharClass) (cursor : Cursor) : List Step :=
  (List.range' cursor.column ((cursor.rest.takeWhile cls.contains).length + 1)).map
    fun column => ⟨column, .lookFor (.character cls)⟩

def skip (cls : CharClass) : Recorded Unit where
  parser := .skip cls
  steps := stepsThrough cls

def run (cls : CharClass) : Recorded String where
  parser := .run cls
  steps := stepsThrough cls

/-- A parser that begins with a step. -/
def marked (act : Act) (p : Recorded α) : Recorded α where
  parser := p.parser
  steps cursor := ⟨cursor.column, act⟩ :: p.steps cursor

instance : Combinators Recorded where
  pure := pure
  bind := bind
  orElse := orElse
  optional := optional
  tooDeep := tooDeep
  terminal := terminal
  skip := skip
  run := run
  marked := marked

end Recorded

end TagQuery
