import TagQuery.ByteReader
import TagQuery.Expr.Rules
import TagQuery.Grammar

/-!
# The rules in bytes

* `ByteReader.wholeQuery`: the rules of the query language as readers that keep their place in bytes.
* `Grammar.parseBytes`: what such a reader makes of a query. Columns are found by counting the
  characters before an offset, also that of the explanation (`ByteState.explanation?`).
-/

namespace TagQuery

/-- A query that is all of the text. -/
def ByteReader.wholeQuery (limit : Nat) : ByteReader Expr :=
  Rules.wholeQuery limit

/-- The explanation of a mismatch. -/
def ByteState.explanation? (state : ByteState) (text : List Char) : Option Rejection := do
  let (before, rest) ← Text.splitAt? text state.furthest
  return .unexpected before.length (Terminal.all.filter (state.expected.contains ·)) rest.head?

/-- Reads a query byte by byte. There is no answer if an offset lies inside a character. -/
def Grammar.parseBytes (grammar : Grammar) (text : String) : Option (Except Rejection Expr) := do
  let (reply, state) ← ByteReader.wholeQuery grammar.maxDepth text.toList .start
  match reply with
  | .done e => return .ok e
  | .mismatch => return .error (← state.explanation? text.toList)
  | .tooDeep position =>
    return .error (.tooDeep (← Text.column? text.toList position) grammar.maxDepth)

end TagQuery
