import TagQuery.Expr.Parser
import TagQuery.Expr.Printer
import TagQuery.Log
import TagQuery.Rejection
import TagQuery.Text.Visible

/-!
# Grammars

* `Grammar`: the query language with a nesting limit. All else about the language is fixed, and stands
  in the rules and not in tables of a grammar.
* `Grammar.parse`: the expression that a query stands for, or why there is none.
* `Grammar.compile` and `Grammar.parseLogged`: the same steps with what they log. The entries about a
  query are `Grammar.queryEntry` and `Grammar.rejectionEntry`.
-/

namespace TagQuery

/-- The query language with a nesting limit. -/
structure Grammar where
  /-- The deepest level on which an operand may lie; the first operand lies on level zero. -/
  maxDepth : Nat
  deriving DecidableEq

namespace Grammar

/-- Reads a query. -/
def parse (grammar : Grammar) (text : String) : Except Rejection Expr :=
  let outcome := Parser.wholeQuery grammar.maxDepth (Cursor.start text)
  match outcome.reply with
  | .done e _ => .ok e
  | .mismatch => .error (.ofTrace text.toList outcome.trace)
  | .tooDeep column => .error (.tooDeep column grammar.maxDepth)

/-- Whether the canonical text of an expression reads back as that expression. -/
def reparses (grammar : Grammar) (e : Expr) : Except Rejection Bool :=
  (grammar.parse e.text).map (· == e)

/-! ## With a log -/

/-- The grammar with a nesting limit. -/
def compile (maxDepth : Nat) : Logged Grammar := do
  Logged.write ⟨.debug, "compiled query grammar: " ++ toString TagKind.all.length ++
    " tag rules, max_depth=" ++ toString maxDepth⟩
  return ⟨maxDepth⟩

/-- The entry about a query that is going to be read. -/
def queryEntry (text : String) : Log.Entry :=
  ⟨.trace, "parsing query " ++ Text.visible text⟩

/-- The entry about a query that was rejected. -/
def rejectionEntry (text : String) (error : ParseError) : Log.Entry :=
  ⟨.debug, "query " ++ Text.visible text ++ " rejected at column " ++ toString error.location ++
    ": " ++ error.message⟩

/-- Reads a query and logs it, and if it is rejected also why. -/
def parseLogged (grammar : Grammar) (text : String) : Logged (Except Rejection Expr) := do
  Logged.write (queryEntry text)
  let result := grammar.parse text
  if let .error rejection := result then
    Logged.write (rejectionEntry text rejection.toParseError)
  return result

end Grammar

end TagQuery
