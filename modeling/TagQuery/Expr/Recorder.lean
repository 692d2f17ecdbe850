import TagQuery.Expr.Parser
import TagQuery.Grammar
import TagQuery.Recorder

/-!
# The rules with a record

* `Recorded.query`, `Recorded.operand`, `Recorded.wholeQuery`: rules of the query language as recorded
  parsers.
* `Recorded.respects_erasure`, `Recorded.parser_wholeQuery`: whatever the rules, the parser of a
  recorded reader is that of the rules without a record.
* `Grammar.steps`: the steps that reading a query takes.
-/

namespace TagQuery

namespace Recorded

abbrev query (levels depth links : Nat) : Recorded Expr :=
  Rules.query levels depth links

abbrev operand (levels level : Nat) : Recorded Expr :=
  Rules.operand levels level

/-- A query that is all of the text. -/
def wholeQuery (limit : Nat) : Recorded Expr :=
  Rules.wholeQuery limit

theorem respects_erasure : Respects Recorded Parser fun p q => p.parser = q where
  pure _ := rfl
  bind hp hf := congr (congrArg Parser.bind hp) (funext hf)
  orElse hp hq := congr (congrArg Parser.orElse hp) hq
  optional hp := congrArg Parser.optional hp
  symbol _ := rfl
  keyword _ := rfl
  skip _ := rfl
  run _ := rfl
  tooDeep := rfl
  marked _ _ hp := hp

theorem parser_operand (levels level : Nat) :
    (operand levels level).parser = Parser.operand levels :=
  respects_erasure.operand ..

/-- Keeping a record changes nothing about the reader. -/
theorem parser_wholeQuery (limit : Nat) :
    (wholeQuery limit).parser = Parser.wholeQuery limit :=
  respects_erasure.wholeQuery rfl limit

end Recorded

/-- The steps that reading a query takes. -/
def Grammar.steps (grammar : Grammar) (text : String) : List Step :=
  (Recorded.wholeQuery grammar.maxDepth).steps (Cursor.start text)

end TagQuery
