import TagQuery.Config
import TagQuery.Expr.Wire

/-!
# Sessions

A session builds expressions on a stack, by reading queries and by hand, and asks about them.

* `Session`: the stack, its top first, and the grammar in use.
* `Session.Step` and `Session.step`: one change or question, with its answer. A step that finds too
  few expressions on the stack changes nothing.
* `Session.run`: the answers to a list of steps, each with the session after it.
-/

namespace TagQuery

/-- A stack of expressions, and the grammar that reads queries. -/
structure Session where
  stack : List Expr := []
  grammar : Grammar := Config.grammar {}

namespace Session

/-- What can be done in a session. -/
inductive Step where
  /-- Uses another nesting limit, or the default one. -/
  | limit (maxDepth : Option Nat)
  /-- Reads a query and pushes its expression. -/
  | parse (query : String)
  /-- Pushes a tag. -/
  | push (tag : Tag)
  | not
  | binary (op : Operator)
  | dup
  | drop
  | swap
  /-- Replaces the top by its operands. -/
  | split
  | tree
  | tags
  | asTag
  | equal
  | reparse
  | wire

/-- What a step comes to. -/
inductive Answer where
  | done
  | underflow
  | limit (maxDepth : Nat)
  | rejected (rejection : Rejection)
  /-- What joined the operands of the top, or the marker of the tag that it is. -/
  | split (joint : String)
  | tree (e : Expr)
  | tags (tags : List Tag)
  | asTag (tag : Option Tag)
  | equal (same : Bool)
  | reparse (result : Except Rejection Bool)
  | wire (text : String)

/-- Takes an expression apart: what is left of it, the right operand first, and its joint. -/
def takeApart : Expr → List Expr × String
  | .tag t => ([.tag t], t.kind.marker)
  | .negation operand => ([operand], Keyword.not.text)
  | .binary op left right => ([right, left], op.text)

/-- A change of the top of the stack. -/
def withTop (session : Session) (change : Expr → List Expr × Answer) : Session × Answer :=
  match session.stack with
  | top :: below =>
    let (pushed, answer) := change top
    ({ session with stack := pushed ++ below }, answer)
  | [] => (session, .underflow)

/-- A change of the two top expressions of the stack, given as the lower and the upper one. -/
def withTwo (session : Session) (change : Expr → Expr → List Expr × Answer) : Session × Answer :=
  match session.stack with
  | upper :: lower :: below =>
    let (pushed, answer) := change lower upper
    ({ session with stack := pushed ++ below }, answer)
  | _ => (session, .underflow)

/-- One step. -/
def step (session : Session) (step : Step) : Session × Answer :=
  match step with
  | .limit maxDepth =>
    let grammar := maxDepth.elim (Config.grammar {}) Grammar.mk
    ({ session with grammar }, .limit grammar.maxDepth)
  | .parse query =>
    match session.grammar.parse query with
    | .ok e => ({ session with stack := e :: session.stack }, .done)
    | .error rejection => (session, .rejected rejection)
  | .push tag => ({ session with stack := .tag tag :: session.stack }, .done)
  | .not => session.withTop fun top => ([.negation top], .done)
  | .binary op => session.withTwo fun left right => ([.binary op left right], .done)
  | .dup => session.withTop fun top => ([top, top], .done)
  | .drop => session.withTop fun _ => ([], .done)
  | .swap => session.withTwo fun lower upper => ([lower, upper], .done)
  | .split => session.withTop fun top =>
    let (operands, joint) := takeApart top
    (operands, .split joint)
  | .tree => session.withTop fun top => ([top], .tree top)
  | .tags => session.withTop fun top => ([top], .tags top.tags)
  | .asTag => session.withTop fun top => ([top], .asTag top.asTag?)
  | .equal => session.withTwo fun lower upper => ([upper, lower], .equal (lower = upper))
  | .reparse => session.withTop fun top => ([top], .reparse (session.grammar.reparses top))
  | .wire => session.withTop fun top => ([top], .wire top.wire)

/-- The steps one after another: the answer to each, with the session after it. -/
def run (session : Session) : List Step → List (Session × Answer)
  | [] => []
  | step :: steps =>
    let next := session.step step
    next :: next.1.run steps

end Session

end TagQuery
