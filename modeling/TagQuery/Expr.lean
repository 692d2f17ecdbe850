import TagQuery.Tag

/-!
# Query expressions

* `Operator`: the three joining words. They bind alike; a chain groups to the right.
* `Expr`: a tag, the negation of an expression, or two expressions joined by an operator.
* `Expr.leaves`: the tags of an expression, from left to right.
* `Expr.tags`: the same list, gathered from a list of expressions still to visit, so that a deep
  expression costs no deep recursion.
* `Expr.Visit`: such a visit under way. Each round takes the first of the pending expressions off, and
  lists it or puts its operands in its place (`Visit.step`).
* `Expr.height`: how far the lowest leaf lies below the root.
-/

namespace TagQuery

/-- The words that join two expressions. -/
inductive Operator where
  | and
  | or
  | xor
  deriving DecidableEq

namespace Operator

/-- Every operator, in the order in which a query tries them. -/
def all : List Operator :=
  [.and, .or, .xor]

/-- The word in canonical spelling. -/
def text : Operator → String
  | .and => "AND"
  | .or => "OR"
  | .xor => "XOR"

/-- The operator whose canonical spelling is `text`. -/
def ofText? (text : String) : Option Operator :=
  all.find? (·.text == text)

@[simp] theorem ofText?_text (op : Operator) : ofText? op.text = some op := by
  cases op <;> decide

end Operator

/-- A query as a tree. -/
inductive Expr where
  | tag (tag : Tag)
  | negation (operand : Expr)
  | binary (op : Operator) (left right : Expr)
  deriving DecidableEq

namespace Expr

/-- The tag that an expression consists of, if it is one. -/
def asTag? : Expr → Option Tag
  | tag t => some t
  | _ => none

/-- How many nodes an expression has. -/
def size : Expr → Nat
  | tag _ => 1
  | negation operand => operand.size + 1
  | binary _ left right => left.size + right.size + 1

/-- How far the lowest leaf lies below the root. -/
def height : Expr → Nat
  | tag _ => 0
  | negation operand => operand.height + 1
  | binary _ left right => max left.height right.height + 1

/-- The tags of an expression, from left to right. -/
def leaves : Expr → List Tag
  | tag t => [t]
  | negation operand => operand.leaves
  | binary _ left right => left.leaves ++ right.leaves

/-- The tags of the pending expressions, the first of them visited first. -/
def tagsOf : (pending : List Expr) → List Tag
  | [] => []
  | tag t :: pending => t :: tagsOf pending
  | negation operand :: pending => tagsOf (operand :: pending)
  | binary _ left right :: pending => tagsOf (left :: right :: pending)
termination_by pending => pending.foldr (fun e total => e.size + total) 0
decreasing_by all_goals simp only [List.foldr_cons, size]; omega

/-- The tags of an expression in the order of a visit from left to right. -/
def tags (e : Expr) : List Tag :=
  tagsOf [e]

/-! ## The visit, round by round -/

/-- A visit under way. -/
structure Visit where
  /-- The tags found so far, from left to right. -/
  listed : List Tag
  /-- The expressions still to visit, the next one first. -/
  pending : List Expr

namespace Visit

/-- The visit of an expression that is about to begin. -/
def start (e : Expr) : Visit :=
  ⟨[], [e]⟩

/-- One round of a visit, which does nothing once nothing is pending. -/
def step : Visit → Visit
  | ⟨listed, []⟩ => ⟨listed, []⟩
  | ⟨listed, tag t :: pending⟩ => ⟨listed ++ [t], pending⟩
  | ⟨listed, negation operand :: pending⟩ => ⟨listed, operand :: pending⟩
  | ⟨listed, binary _ left right :: pending⟩ => ⟨listed, left :: right :: pending⟩

/-- So many rounds. -/
def run : Nat → Visit → Visit
  | 0, visit => visit
  | rounds + 1, visit => run rounds visit.step

/-- How many rounds there are to go. -/
def remaining (visit : Visit) : Nat :=
  visit.pending.foldr (fun e rounds => e.size + rounds) 0

/-- What will have been listed in the end. -/
def leaves (visit : Visit) : List Tag :=
  visit.listed ++ visit.pending.flatMap Expr.leaves

end Visit

end Expr

end TagQuery
