import TagQuery.Expr
import TagQuery.Json.Reader

/-!
# The wire form of expressions

* `Expr.toJson`: an expression as a JSON value. The fields of an object come in a fixed order, and
  only a semantic tag has the field for its flag.
* `Expr.wire`: the compact text of that value.
* `Expr.ofJson?`, `Expr.ofWire?`: the expression that a value or a text stands for.
-/

namespace TagQuery

open Json (Value)

/-! ## Writing -/

/-- A tag as a JSON object. -/
def Tag.toJson (tag : Tag) : Value :=
  let common := [("type", .string tag.kind.name), ("value", .string tag.value)]
  match tag with
  | .semantic _ synonyms => .object (common ++ [("synonymsFlag", .bool synonyms)])
  | _ => .object common

namespace Expr

/-- An expression as a JSON object. -/
def toJson : Expr → Value
  | tag t => t.toJson
  | negation operand => .object [("operator", .string "NOT"), ("expr", operand.toJson)]
  | binary op left right =>
    .object [("operator", .string op.text), ("lexpr", left.toJson), ("rexpr", right.toJson)]

/-- The wire form of an expression. -/
def wire (e : Expr) : String :=
  e.toJson.render

/-! ## Reading -/

/-- The expression that a JSON value stands for. -/
def ofJson? : Value → Option Expr
  | .object [("type", .string kind), ("value", .string value), ("synonymsFlag", .bool synonyms)] =>
    if kind = TagKind.semantic.name then some (.tag (.semantic value synonyms)) else none
  | .object [("type", .string name), ("value", .string value)] => do
    let kind ← TagKind.ofName? name
    if kind = .semantic then none else return .tag (.ofKind kind value false)
  | .object [("operator", .string "NOT"), ("expr", operand)] => negation <$> ofJson? operand
  | .object [("operator", .string word), ("lexpr", left), ("rexpr", right)] => do
    return .binary (← Operator.ofText? word) (← ofJson? left) (← ofJson? right)
  | _ => none

/-- The expression that a text in wire form stands for. -/
def ofWire? (text : String) : Option Expr :=
  (Json.parse? text).bind ofJson?

/-- An expression reads back from the JSON value it is written as. -/
@[simp] theorem ofJson?_toJson (e : Expr) : ofJson? e.toJson = some e := by
  induction e with
  | tag t => cases t <;> simp [toJson, Tag.toJson, ofJson?, Tag.kind, Tag.value, Tag.ofKind]
  | negation operand ih => simp [toJson, ofJson?, ih]
  | binary op left right ihl ihr => simp [toJson, ofJson?, ihl, ihr]

end Expr

end TagQuery
