import TagQuery.Combinators

/-!
# The rules of the query language

    query    = operand gap operator gap query / gap "NOT" gap operand / operand
    operand  = tag / "(" query ")"
    tag      = "s:" value "+s"? / "k:" value / "c:" value / "r:/" [a-zA-Z0-9_ \^$*+?.()]+ "/"
    value    = [a-zA-Z0-9]+ / '"' [^"]+ '"'
    operator = "AND" / "OR" / "XOR"
    gap      = [ ]*

Alternatives are tried in this order and repetitions take all they can. The operators bind alike,
a chain of them groups to the right, and a negation can only end a chain. The rules name the kinds
of tags and the operators one by one, in the order of `TagKind.all` and `Operator.all`; there is no
table of them to compile.

* `Rules.query levels depth links`: reads on in a query that began on level `depth`, after so many of
  its links. Every operand lies within the next `levels` levels. The first operand of a query is on
  the level of the query; a group, the operand of a negation and the next link of a chain are each
  one level below. Levels run out before any text of the operand is looked at.
* `Rules.operand levels level`: a tag or a group on `level`.
* `Rules.wholeQuery`: a query with nothing after it.
* `RespectsText.tag`, `RespectsText.operator`, `Respects.query`, `Respects.wholeQuery`: the rules keep
  every relation that the combinators keep.
-/

namespace TagQuery

namespace Rules

open Combinators

variable {M : Type → Type} [Combinators M]

/-- A symbol. -/
def symbol (s : Symbol) : M Unit :=
  terminal (.symbol s)

/-- A keyword. -/
def keyword (k : Keyword) : M Unit :=
  terminal (.keyword k)

/-- The spaces between two parts of a query, which may be none. -/
def gap : M Unit :=
  skip .space

/-! ## Tags -/

/-- A value between quotation marks. -/
def quotedValue : M String := do
  symbol .quotationMark
  let text ← run .unquoted
  symbol .quotationMark
  return text

/-- The value of a tag: a word, or a quoted text. -/
def value : M String :=
  orElse (run .word) quotedValue

/-- A tag of one kind. -/
def tagOfKind (kind : TagKind) : M Tag := do
  symbol (.opening kind)
  match kind with
  | .semantic =>
    let text ← value
    let synonyms ← optional (symbol .synonyms)
    return .semantic text synonyms.isSome
  | .keyword => return .keyword (← value)
  | .comment => return .comment (← value)
  | .regex =>
    let text ← run .pattern
    symbol .patternEnd
    return .regex text

/-- A tag. -/
def tag : M Tag :=
  orElse (tagOfKind .semantic) <|
    orElse (tagOfKind .keyword) <|
      orElse (tagOfKind .comment) (tagOfKind .regex)

/-! ## Operands and queries -/

/-- An operator's word. -/
def operatorWord (op : Operator) : M Operator := do
  keyword (.operator op)
  return op

/-- An operator with the spaces around it. -/
def operator : M Operator := do
  gap
  let op ← orElse (operatorWord .and) (orElse (operatorWord .or) (operatorWord .xor))
  gap
  return op

/-- A query in parentheses. What is inside is not made before the parenthesis is there. -/
def group (inner : Unit → M Expr) : M Expr := do
  symbol .groupOpen
  let e ← inner ()
  symbol .groupClose
  return e

/-- A tag or a group. -/
def tagOrGroup (inner : Unit → M Expr) : M Expr :=
  orElse (do return .tag (← tag)) (group inner)

/-- The word `NOT` with the spaces around it, and what it negates. -/
def negation (operand : M Expr) : M Expr := do
  gap
  keyword .not
  gap
  return .negation (← operand)

/-- What comes after the first operand of a query. -/
def chain (left : Expr) (right : M Expr) : M Expr := do
  match ← optional operator with
  | some op => return .binary op left (← right)
  | none => return left

mutual

/-- What is left of a query, with its operands within the next `levels` levels. -/
def query (levels depth links : Nat) : M Expr :=
  marked (.link depth links) <|
    match levels with
    | 0 => marked (.operand (depth + links)) tooDeep
    | below + 1 => do
      match ← optional <| marked (.operand (depth + links)) <|
          tagOrGroup fun _ => query below (depth + links + 1) 0 with
      | some left => chain left (query below depth (links + 1))
      | none => marked (.negation (depth + links)) <| negation (operand below (depth + links + 1))

/-- A tag or group on a level, if that is within the next `levels` levels. -/
def operand (levels level : Nat) : M Expr :=
  marked (.operand level) <|
    match levels with
    | 0 => tooDeep
    | below + 1 => tagOrGroup fun _ => query below (level + 1) 0

end

/-- A query that is all of the text, with levels from zero to `limit`. -/
def wholeQuery (limit : Nat) : M Expr := do
  let e ← query (limit + 1) 0 0
  terminal .endOfInput
  return e

end Rules

/-! ## Relations between two kinds of readers -/

open Rules

variable {M N : Type → Type} [Combinators M] [Combinators N] {R : {α : Type} → M α → N α → Prop}

namespace RespectsText

theorem value (h : RespectsText M N R) : R value value :=
  h.orElse (h.run .word) <| h.bind (h.symbol _) fun _ => h.bind (h.run .unquoted) fun _ =>
    h.bind (h.symbol _) fun _ => h.pure _

theorem tagOfKind (h : RespectsText M N R) (kind : TagKind) : R (tagOfKind kind) (tagOfKind kind) := by
  refine h.bind (h.symbol _) fun _ => ?_
  cases kind with
  | semantic =>
    exact h.bind h.value fun _ => h.bind (h.optional (h.symbol _)) fun _ => h.pure _
  | keyword => exact h.bind h.value fun _ => h.pure _
  | comment => exact h.bind h.value fun _ => h.pure _
  | regex => exact h.bind (h.run .pattern) fun _ => h.bind (h.symbol _) fun _ => h.pure _

theorem tag (h : RespectsText M N R) : R tag tag :=
  h.orElse (h.tagOfKind _) <| h.orElse (h.tagOfKind _) <|
    h.orElse (h.tagOfKind _) (h.tagOfKind _)

theorem operator (h : RespectsText M N R) : R operator operator := by
  have hword : ∀ op, R (operatorWord op) (operatorWord op) := fun _ =>
    h.bind (h.keyword _) fun _ => h.pure _
  exact h.bind (h.skip .space) fun _ =>
    h.bind (h.orElse (hword _) (h.orElse (hword _) (hword _))) fun _ =>
      h.bind (h.skip .space) fun _ => h.pure _

theorem tagOrGroup (h : RespectsText M N R) {p : Unit → M Expr} {q : Unit → N Expr}
    (hinner : R (p ()) (q ())) : R (tagOrGroup p) (tagOrGroup q) :=
  h.orElse (h.bind h.tag fun _ => h.pure _) <|
    h.bind (h.symbol _) fun _ => h.bind hinner fun _ => h.bind (h.symbol _) fun _ => h.pure _

theorem negation (h : RespectsText M N R) {p : M Expr} {q : N Expr} (hoperand : R p q) :
    R (negation p) (negation q) :=
  h.bind (h.skip .space) fun _ => h.bind (h.keyword _) fun _ => h.bind (h.skip .space) fun _ =>
    h.bind hoperand fun _ => h.pure _

theorem chain (h : RespectsText M N R) (left : Expr) {p : M Expr} {q : N Expr} (hright : R p q) :
    R (chain left p) (chain left q) := by
  refine h.bind (h.optional h.operator) fun joint => ?_
  cases joint with
  | some op => exact h.bind hright fun _ => h.pure _
  | none => exact h.pure _

end RespectsText

namespace Respects

mutual

/-- Levels that are only named in acts may differ. -/
theorem query (h : Respects M N R) (levels depth links depth' links' : Nat) :
    R (query levels depth links) (query levels depth' links') := by
  unfold Rules.query
  refine h.marked _ _ ?_
  match levels with
  | 0 => exact h.marked _ _ h.tooDeep
  | below + 1 =>
    refine h.bind (h.optional (h.marked _ _ (h.tagOrGroup (h.query below ..)))) fun first => ?_
    cases first with
    | some left => exact h.chain left (h.query below ..)
    | none => exact h.marked _ _ (h.negation (h.operand below ..))

theorem operand (h : Respects M N R) (levels level level' : Nat) :
    R (operand levels level) (operand levels level') := by
  unfold Rules.operand
  refine h.marked _ _ ?_
  match levels with
  | 0 => exact h.tooDeep
  | below + 1 => exact h.tagOrGroup (h.query below ..)

end

theorem wholeQuery (h : Respects M N R)
    (hend : R (Combinators.terminal .endOfInput) (Combinators.terminal .endOfInput)) (limit : Nat) :
    R (wholeQuery limit) (wholeQuery limit) :=
  h.bind (h.query ..) fun _ => h.bind hend fun _ => h.pure _

end Respects

end TagQuery
