import TagQuery.Terminal

/-!
# Combinators of readers

What the rules of the query language are put together from, whatever a reader keeps account of.

* `Act`: what a rule sets out to do.
* `Combinators`: the readers of one kind. Beside the sequence of a monad they have alternatives, a
  notice that a query nests too deep, and the three ways to look at the text; `marked` names the act
  that a reader performs.
* `RespectsText`, `Respects`: a relation between readers of two kinds that is kept by what tags and
  operators, or else queries, are made of. A property of the readers of one kind is such a relation
  too.
-/

namespace TagQuery

/-- What a rule sets out to do. -/
inductive Act where
  /-- To read on in a query that began on level `depth`, after so many of its links. -/
  | link (depth links : Nat)
  /-- To read a tag or a group. -/
  | operand (level : Nat)
  /-- To read a negation. -/
  | negation (level : Nat)
  /-- To look for a terminal. -/
  | lookFor (t : Terminal)
  deriving DecidableEq

/-- The level of an act. Terminals are looked for without one. -/
def Act.level : Act → Nat
  | link depth links => depth + links
  | operand level => level
  | negation level => level
  | lookFor _ => 0

/-- Readers of one kind. -/
class Combinators (M : Type → Type) extends Monad M where
  /-- On a mismatch, another reader from the same place. -/
  orElse {α : Type} : M α → M α → M α
  /-- On a mismatch, nothing, at the same place. -/
  optional {α : Type} : M α → M (Option α)
  /-- The notice that the query nests too deep from here on. -/
  tooDeep {α : Type} : M α
  /-- A terminal. -/
  terminal : Terminal → M Unit
  /-- The characters of a class, as many as there are. -/
  skip : CharClass → M Unit
  /-- One or more characters of a class, as many as there are. -/
  run : CharClass → M String
  /-- A reader that performs an act. -/
  marked {α : Type} : Act → M α → M α

/-- A relation between readers of two kinds that is kept by what tags and operators are made of. -/
structure RespectsText (M N : Type → Type) [Combinators M] [Combinators N]
    (R : {α : Type} → M α → N α → Prop) : Prop where
  pure {α : Type} (a : α) : R (Pure.pure a) (Pure.pure a)
  bind {α β : Type} {p : M α} {q : N α} {f : α → M β} {g : α → N β} :
    R p q → (∀ a, R (f a) (g a)) → R (p >>= f) (q >>= g)
  orElse {α : Type} {p p' : M α} {q q' : N α} :
    R p q → R p' q' → R (Combinators.orElse p p') (Combinators.orElse q q')
  optional {α : Type} {p : M α} {q : N α} :
    R p q → R (Combinators.optional p) (Combinators.optional q)
  symbol (s : Symbol) : R (Combinators.terminal (.symbol s)) (Combinators.terminal (.symbol s))
  keyword (k : Keyword) : R (Combinators.terminal (.keyword k)) (Combinators.terminal (.keyword k))
  skip (cls : CharClass) : R (Combinators.skip cls) (Combinators.skip cls)
  run (cls : CharClass) : R (Combinators.run cls) (Combinators.run cls)

/-- A relation between readers of two kinds that is kept by what queries are made of. The acts of the
two sides may differ. Only a whole query looks for its end. -/
structure Respects (M N : Type → Type) [Combinators M] [Combinators N]
    (R : {α : Type} → M α → N α → Prop) : Prop extends RespectsText M N R where
  tooDeep {α : Type} : R (Combinators.tooDeep : M α) Combinators.tooDeep
  marked {α : Type} {p : M α} {q : N α} (act act' : Act) :
    R p q → R (Combinators.marked act p) (Combinators.marked act' q)

end TagQuery
