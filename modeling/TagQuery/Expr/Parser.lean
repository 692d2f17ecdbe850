import TagQuery.Expr.Rules
import TagQuery.Parser

/-!
# The rules as parsers

A parser takes no notice of the levels that acts name (`Parser.respects_eq`), so a query and an
operand depend on nothing but how many levels are left.

* `Parser.query levels`: a query of which every operand lies within the next `levels` levels, by its
  parts in `Parser.query_succ`. `Parser.operand levels`: a tag or a group, likewise.
* `Parser.query_induction`: what holds where levels run out, and of the rules one level up, holds of
  all queries and operands.
* `Parser.wholeQuery`: a query with nothing after it.
-/

namespace TagQuery.Parser

abbrev symbol (s : Symbol) : Parser Unit :=
  Rules.symbol s

abbrev keyword (k : Keyword) : Parser Unit :=
  Rules.keyword k

abbrev gap : Parser Unit :=
  Rules.gap

abbrev quotedValue : Parser String :=
  Rules.quotedValue

abbrev value : Parser String :=
  Rules.value

abbrev tagOfKind (kind : TagKind) : Parser Tag :=
  Rules.tagOfKind kind

abbrev tag : Parser Tag :=
  Rules.tag

abbrev operatorWord (op : Operator) : Parser Operator :=
  Rules.operatorWord op

abbrev operator : Parser Operator :=
  Rules.operator

abbrev group (inner : Parser Expr) : Parser Expr :=
  Rules.group fun _ => inner

abbrev tagOrGroup (inner : Parser Expr) : Parser Expr :=
  Rules.tagOrGroup fun _ => inner

abbrev negation (operand : Parser Expr) : Parser Expr :=
  Rules.negation operand

abbrev chain (left : Expr) (right : Parser Expr) : Parser Expr :=
  Rules.chain left right

/-- A query whose operands lie within the next `levels` levels. -/
def query (levels : Nat) : Parser Expr :=
  Rules.query levels 0 0

/-- A tag or group that lies within the next `levels` levels. -/
def operand (levels : Nat) : Parser Expr :=
  Rules.operand levels 0

/-- A query that is all of the text, with levels from zero to `limit`. -/
def wholeQuery (limit : Nat) : Parser Expr :=
  Rules.wholeQuery limit

/-! ## Rules by their parts -/

theorem gap_eq : gap = skip .space := rfl

theorem group_eq (inner : Parser Expr) : group inner = (do
    symbol .groupOpen
    let e ← inner
    symbol .groupClose
    return e) := rfl

theorem tagOrGroup_eq (inner : Parser Expr) :
    tagOrGroup inner = orElse (do return .tag (← tag)) (group inner) := rfl

theorem chain_eq (left : Expr) (right : Parser Expr) : chain left right = (do
    match ← optional operator with
    | some op => return .binary op left (← right)
    | none => return left) := rfl

/-- Parsers that differ in the acts they name do not differ. -/
theorem respects_eq : Respects Parser Parser Eq where
  pure _ := rfl
  bind hp hf := by rw [hp, funext hf]
  orElse hp hq := by rw [hp, hq]
  optional hp := by rw [hp]
  symbol _ := rfl
  keyword _ := rfl
  skip _ := rfl
  run _ := rfl
  tooDeep := rfl
  marked _ _ hp := hp

theorem query_zero : query 0 = tooDeep := rfl

/-- A query by its parts. -/
theorem query_succ (below : Nat) : query (below + 1) = (do
    match ← optional (tagOrGroup (query below)) with
    | some left => chain left (query below)
    | none => negation (operand below)) := by
  have hlevel : ∀ depth links, Rules.query below depth links = query below :=
    fun _ _ => respects_eq.query ..
  have hnegated : Rules.operand below (0 + 0 + 1) = operand below := respects_eq.operand ..
  rw [query, Rules.query, hlevel, hlevel, hnegated]
  rfl

theorem operand_zero : operand 0 = tooDeep := rfl

theorem operand_succ (below : Nat) : operand (below + 1) = tagOrGroup (query below) := by
  have hgroup : Rules.query below (0 + 1) 0 = query below := respects_eq.query ..
  rw [operand, Rules.operand, hgroup]
  rfl

theorem wholeQuery_eq (limit : Nat) : wholeQuery limit = (do
    let e ← query (limit + 1)
    terminal .endOfInput
    return e) := rfl

/-- Queries and operands have a property if readers have it where levels run out, and if the rules
keep it from one level to the next. -/
theorem query_induction {P Q : Nat → Parser Expr → Prop} (query_zero : P 0 tooDeep)
    (query_succ : ∀ below, P below (query below) → Q below (operand below) →
      P (below + 1) (do
        match ← optional (tagOrGroup (query below)) with
        | some left => chain left (query below)
        | none => negation (operand below)))
    (operand_zero : Q 0 tooDeep)
    (operand_succ : ∀ below, P below (query below) → Q (below + 1) (tagOrGroup (query below)))
    (levels : Nat) : P levels (query levels) ∧ Q levels (operand levels) := by
  induction levels with
  | zero => exact ⟨query_zero, operand_zero⟩
  | succ below ih =>
    obtain ⟨hquery, hoperand⟩ := ih
    rw [Parser.query_succ, Parser.operand_succ]
    exact ⟨query_succ below hquery hoperand, operand_succ below hquery⟩

end TagQuery.Parser
