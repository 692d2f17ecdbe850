import TagQuery.Parser
import TagQuery.Text.Quoted

/-!
# Why a query is rejected

* `Rejection`: either something else was expected at the furthest place that any rule reached, or
  the query nests deeper than the limit.
* `Rejection.ofTrace`: the explanation that a trace gives of a mismatch.
* `Rejection.message`: its wording.
* `ParseError`: a message with the column it is about, as it is reported.
-/

namespace TagQuery

/-- A message about a column of a query. -/
structure ParseError where
  message : String
  /-- The column, counted in characters from zero. -/
  location : Nat
  deriving DecidableEq

/-- The message with its column. -/
def ParseError.text (error : ParseError) : String :=
  error.message ++ " (column " ++ toString error.location ++ ")"

/-- Why a query is rejected. -/
inductive Rejection where
  /-- None of the expected terminals is at the column, but another character or the end. -/
  | unexpected (column : Nat) (expected : List Terminal) (found : Option Char)
  /-- The operand at the column lies below the limit. -/
  | tooDeep (column : Nat) (limit : Nat)
  deriving DecidableEq

namespace Rejection

/-- What a trace says about a mismatch in `text`: everything missed at the furthest column, each
terminal once, in ascending order of the descriptions. -/
def ofTrace (text : List Char) (trace : Trace) : Rejection :=
  let column := trace.furthest
  let missed := trace.missedAt column
  .unexpected column (Terminal.all.filter (missed.contains ·)) text[column]?

def column : Rejection → Nat
  | unexpected column .. => column
  | tooDeep column _ => column

/-- Some choices in one phrase: two are joined by "or", more are separated by commas too. -/
def alternatives : List String → String
  | [] => "end of input"
  | [only] => only
  | [first, second] => first ++ " or " ++ second
  | choices@(_ :: _ :: _ :: _) =>
    ", ".intercalate choices.dropLast ++ ", or " ++ choices.getLastD ""

/-- A character as an explanation names what it found. -/
def foundText : Option Char → String
  | some c => Text.quote (String.singleton c)
  | none => "end of input"

/-- The wording of a rejection. -/
def message : Rejection → String
  | unexpected _ expected found =>
    "Expected " ++ alternatives (expected.map Terminal.description) ++ " but " ++ foundText found
      ++ " found."
  | tooDeep _ limit =>
    "Query nests deeper than the limit of " ++ toString limit ++ " levels"

/-- A rejection as it is reported. -/
def toParseError (rejection : Rejection) : ParseError :=
  ⟨rejection.message, rejection.column⟩

end Rejection

end TagQuery
