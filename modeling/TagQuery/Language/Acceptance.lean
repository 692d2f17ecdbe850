import TagQuery.Grammar

/-!
# What is accepted under some limit

An explanation of a syntax error does not depend on the nesting limit, so the texts that it is held
against do not either.

* `IsAccepted`: the texts that some grammar accepts.
* `IsViable`: the beginnings of such texts.
-/

namespace TagQuery

/-- Some grammar accepts the text. -/
def IsAccepted (text : List Char) : Prop :=
  ∃ (g : Grammar) (e : Expr), g.parse (String.ofList text) = .ok e

/-- The text can be completed to one that is accepted. -/
def IsViable (text : List Char) : Prop :=
  ∃ tail, IsAccepted (text ++ tail)

end TagQuery
