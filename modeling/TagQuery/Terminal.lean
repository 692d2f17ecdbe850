import TagQuery.Expr
import TagQuery.Text.Quoted

/-!
# Terminals of the query language

* `CharClass`: the classes of characters that values, patterns and gaps are made of.
* `Symbol`: texts that a query spells exactly. The openings of tags give their kinds away
  (`Symbol.opening_text_injective`). `Keyword`: words in any letter case.
* `Terminal`: a symbol, a keyword, one character of a class, or the end of the query.
* `Terminal.strip?`: what follows a terminal at the start of a text.
* `Terminal.description`: how an explanation names a terminal. `Terminal.all` lists every terminal
  once, with the descriptions in ascending order (`description_ascending`).
-/

namespace TagQuery

/-- Classes of characters. -/
inductive CharClass where
  /-- ASCII letters and digits. -/
  | word
  /-- Everything but the quotation mark. -/
  | unquoted
  /-- What a pattern may hold. -/
  | pattern
  /-- The plain space alone. -/
  | space
  deriving DecidableEq

namespace CharClass

/-- The marks that a pattern may hold beside ASCII letters and digits. -/
def patternMarks : List Char :=
  ['_', ' ', '^', '$', '*', '+', '?', '.', '(', ')']

/-- Whether a character belongs to a class. -/
def contains : CharClass → Char → Bool
  | word, c => c.isAlphanum
  | unquoted, c => c != '"'
  | pattern, c => c.isAlphanum || patternMarks.contains c
  | space, c => c == ' '

/-- A class as an explanation names it. -/
def description : CharClass → String
  | word => "[a-zA-Z0-9]"
  | unquoted => "[^\"]"
  | pattern => "[a-zA-Z0-9_ \\^$*+?.()]"
  | space => "[ ]"

end CharClass

/-- Texts that a query spells exactly, letter case included. -/
inductive Symbol where
  /-- The marker that opens a tag of a kind. -/
  | opening (kind : TagKind)
  /-- The ending by which a semantic tag asks for synonyms. -/
  | synonyms
  /-- The end of a pattern. -/
  | patternEnd
  | quotationMark
  | groupOpen
  | groupClose
  deriving DecidableEq

/-- How a query spells a symbol. -/
def Symbol.text : Symbol → String
  | opening .regex => TagKind.regex.marker ++ ":/"
  | opening kind => kind.marker ++ ":"
  | synonyms => "+s"
  | patternEnd => "/"
  | quotationMark => "\""
  | groupOpen => "("
  | groupClose => ")"

/-- In front of the colon an opening has the marker of its kind. -/
theorem Symbol.ofMarker?_opening (kind : TagKind) :
    TagKind.ofMarker? (String.ofList ((opening kind).text.toList.takeWhile (· != ':'))) = some kind := by
  cases kind <;> decide

/-- No two kinds of tag open alike. -/
theorem Symbol.opening_text_injective : Function.Injective fun kind => (opening kind).text := by
  intro a b h
  have hmarker := ofMarker?_opening a
  rw [show (opening a).text = (opening b).text from h, ofMarker?_opening b] at hmarker
  exact (Option.some.inj hmarker).symm

/-- Words that a query may spell in any letter case. -/
inductive Keyword where
  | operator (op : Operator)
  | not
  deriving DecidableEq

/-- A keyword in capitals. -/
def Keyword.text : Keyword → String
  | operator op => op.text
  | not => "NOT"

/-- What a rule may look for. -/
inductive Terminal where
  | symbol (symbol : Symbol)
  | keyword (keyword : Keyword)
  | character (cls : CharClass)
  | endOfInput
  deriving DecidableEq

namespace Terminal

/-- How many characters a terminal takes up. -/
def width : Terminal → Nat
  | symbol s => s.text.length
  | keyword k => k.text.length
  | character _ => 1
  | endOfInput => 0

/-- What follows the terminal in a text that begins with it. Only ASCII letters have two cases. -/
def strip? (terminal : Terminal) (text : List Char) : Option (List Char) :=
  match terminal with
  | symbol s => if text.take terminal.width = s.text.toList then text.drop terminal.width else none
  | keyword k =>
    if (text.take terminal.width).map Char.toUpper = k.text.toList then text.drop terminal.width
    else none
  | character cls =>
    match text with
    | c :: rest => if cls.contains c then rest else none
    | [] => none
  | endOfInput => if text.isEmpty then some [] else none

/-- A terminal as an explanation names it. -/
def description : Terminal → String
  | symbol s => Text.quote s.text
  | keyword k => Text.quote k.text
  | character cls => cls.description
  | endOfInput => "end of input"

/-- Every terminal, in ascending order of their descriptions. -/
def all : List Terminal := [
  symbol .groupOpen, symbol .groupClose, symbol .synonyms, symbol .patternEnd,
  keyword (.operator .and), keyword .not, keyword (.operator .or), keyword (.operator .xor),
  symbol .quotationMark,
  symbol (.opening .comment), symbol (.opening .keyword), symbol (.opening .regex),
  symbol (.opening .semantic),
  character .space, character .unquoted, character .word, character .pattern,
  endOfInput]

/-- No terminal is missing from the list. -/
@[simp] theorem mem_all (terminal : Terminal) : terminal ∈ all := by
  rcases terminal with s | k | cls | _
  · rcases s with kind | _ | _ | _ | _ | _ <;> first | decide | (cases kind <;> decide)
  · rcases k with op | _ <;> first | decide | (cases op <;> decide)
  · cases cls <;> decide
  · decide

/-- Descriptions ascend strictly along the list, so none of them stands for two terminals. -/
theorem description_ascending : (all.map description).Pairwise (· < ·) := by
  decide +kernel

end Terminal

end TagQuery
