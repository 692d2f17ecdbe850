import TagQuery.Expr

/-!
# Canonical text of expressions

* `Expr.text`: one spelling for each expression. An operand is put in parentheses where the
  reader would otherwise stop early: on the left of an operator and after `NOT`, unless it is a
  tag. The right side of an operator never needs any, because chains group to the right.
-/

namespace TagQuery.Expr

/-- The canonical spelling of an expression. -/
def text : Expr → String
  | tag t => t.text
  | negation operand => "NOT " ++ atomic operand operand.text
  | binary op left right => atomic left left.text ++ " " ++ op.text ++ " " ++ right.text
where
  /-- The spelling of an operand that has to be a tag or a group. -/
  atomic (operand : Expr) (spelled : String) : String :=
    match operand with
    | tag _ => spelled
    | _ => "(" ++ spelled ++ ")"

end TagQuery.Expr
