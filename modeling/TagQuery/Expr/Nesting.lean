import TagQuery.Expr
import TagQuery.Terminal

/-!
# What canonical text needs to read back

* `Tag.isWellFormed`: the tags whose canonical text is a tag again.
* `Expr.nesting`: how many levels below the first the canonical text of an expression reaches.
-/

namespace TagQuery

/-- A value must not be empty. A pattern consists of the characters of patterns, and any other value
holds no quotation mark. -/
def Tag.isWellFormed : Tag → Bool
  | .regex value => !value.isEmpty && value.toList.all CharClass.pattern.contains
  | .semantic value _ | .keyword value | .comment value =>
    !value.isEmpty && value.toList.all CharClass.unquoted.contains

namespace Expr

/-- How deep an operand reaches that is a tag, or else a group around an expression that reaches
`inner` deep. -/
def operandNesting (operand : Expr) (inner : Nat) : Nat :=
  match operand with
  | tag _ => 0
  | _ => inner + 1

/-- How many levels below the first the canonical text reaches. The operand of a negation and the
right side of an operator begin one level below; what needs parentheses there, or on the left of an
operator, is another level below. -/
def nesting : Expr → Nat
  | tag _ => 0
  | negation operand => operandNesting operand operand.nesting + 1
  | binary _ left right => max (operandNesting left left.nesting) (right.nesting + 1)

end Expr

end TagQuery
