import TagQuery.Combinators

/-!
# Parsers with a record of what they missed

* `Cursor`: a place in a query, with its column and the text that is left.
* `Trace`: the terminals that were looked for and not found, each with its column.
* `Parser`: from a cursor to an outcome, which is a reply and the trace left on the way. The trace
  is kept whether the reply is a success or not, since a later explanation draws on all of it.
* A reply is a value, a mismatch, which another alternative may still mend, or the notice that a
  query nests too deep, which none can.
* `terminal`, `skip` and `run` are the only parsers that look at the text. `orElse` and `optional`
  go on from where the first parser began.
-/

namespace TagQuery

/-- A place in a query. -/
structure Cursor where
  /-- How many characters came before. -/
  column : Nat
  /-- The characters that are left. -/
  rest : List Char

/-- The start of a query. -/
def Cursor.start (text : String) : Cursor :=
  ⟨0, text.toList⟩

/-- The place after the characters of a class that come next. -/
def Cursor.after (cursor : Cursor) (cls : CharClass) : Cursor :=
  ⟨cursor.column + (cursor.rest.takeWhile cls.contains).length,
    cursor.rest.dropWhile cls.contains⟩

/-! ## Traces -/

/-- What a parser looked for in vain. Joining two traces takes constant time. -/
inductive Trace where
  | empty
  | missed (column : Nat) (terminal : Terminal)
  | append (first second : Trace)

namespace Trace

instance : Append Trace :=
  ⟨append⟩

/-- The entries of a trace, in the order in which they came about. -/
def toList : Trace → List (Nat × Terminal)
  | empty => []
  | missed column terminal => [(column, terminal)]
  | append first second => first.toList ++ second.toList

/-- The last column at which a terminal was missed, and zero if none was. -/
def furthest : Trace → Nat
  | empty => 0
  | missed column _ => column
  | append first second => max first.furthest second.furthest

/-- The entries of a trace at one column. -/
def missedAt (column : Nat) (trace : Trace) : List Terminal :=
  go trace []
where
  /-- The entries of a trace at the column, followed by `later`. -/
  go : Trace → List Terminal → List Terminal
    | empty, later => later
    | missed found terminal, later => if found = column then terminal :: later else later
    | append first second, later => go first (go second later)

@[simp] theorem toList_append (a b : Trace) : (a ++ b).toList = a.toList ++ b.toList := rfl

@[simp] theorem furthest_append (a b : Trace) : (a ++ b).furthest = max a.furthest b.furthest := rfl

private theorem mem_missedAt_go {column : Nat} {terminal : Terminal} (trace : Trace)
    (later : List Terminal) :
    terminal ∈ missedAt.go column trace later ↔
      (column, terminal) ∈ trace.toList ∨ terminal ∈ later := by
  induction trace generalizing later with
  | empty => simp [missedAt.go, toList]
  | missed found t =>
    simp only [missedAt.go, toList, List.mem_singleton, Prod.mk.injEq]
    split
    · simp_all
    · grind
  | append a b iha ihb => simp [missedAt.go, toList, iha, ihb, or_assoc]

/-- The terminals missed at a column are those that the trace pairs with it. -/
theorem mem_missedAt {column : Nat} {terminal : Terminal} {trace : Trace} :
    terminal ∈ trace.missedAt column ↔ (column, terminal) ∈ trace.toList := by
  simp [missedAt, mem_missedAt_go]

end Trace

/-! ## Outcomes -/

/-- What a parser came to. -/
inductive Reply (α : Type) where
  /-- A value, with the place after its text. -/
  | done (value : α) (next : Cursor)
  /-- The text is not of the form looked for. -/
  | mismatch
  /-- The text nests too deep, beginning at a column. -/
  | tooDeep (column : Nat)

/-- A reply, with what was missed on the way to it. -/
structure Outcome (α : Type) where
  reply : Reply α
  trace : Trace

/-- An outcome after an earlier trace. -/
def Outcome.after {α : Type} (outcome : Outcome α) (earlier : Trace) : Outcome α :=
  { outcome with trace := earlier ++ outcome.trace }

/-- A reader of a query from a cursor on. -/
def Parser (α : Type) :=
  Cursor → Outcome α

namespace Parser

variable {α β : Type}

/-- Takes no text. -/
def pure (value : α) : Parser α := fun cursor =>
  ⟨.done value cursor, .empty⟩

/-- One parser, then another from where the first ended. -/
def bind (p : Parser α) (f : α → Parser β) : Parser β := fun cursor =>
  match p cursor with
  | ⟨.done value next, trace⟩ => (f value next).after trace
  | ⟨.mismatch, trace⟩ => ⟨.mismatch, trace⟩
  | ⟨.tooDeep column, trace⟩ => ⟨.tooDeep column, trace⟩

/-- On a mismatch, another parser from the same place. -/
def orElse (p q : Parser α) : Parser α := fun cursor =>
  match p cursor with
  | ⟨.mismatch, trace⟩ => (q cursor).after trace
  | outcome => outcome

/-- On a mismatch, nothing, at the same place. -/
def optional (p : Parser α) : Parser (Option α) := fun cursor =>
  match p cursor with
  | ⟨.done value next, trace⟩ => ⟨.done (some value) next, trace⟩
  | ⟨.mismatch, trace⟩ => ⟨.done none cursor, trace⟩
  | ⟨.tooDeep column, trace⟩ => ⟨.tooDeep column, trace⟩

/-- The notice that the query nests too deep from here on. -/
def tooDeep : Parser α := fun cursor =>
  ⟨.tooDeep cursor.column, .empty⟩

/-- A terminal, which is missed here if the text does not begin with it. -/
def terminal (t : Terminal) : Parser Unit := fun cursor =>
  match t.strip? cursor.rest with
  | some rest => ⟨.done () ⟨cursor.column + t.width, rest⟩, .empty⟩
  | none => ⟨.mismatch, .missed cursor.column t⟩

/-- Passes over the characters of a class, as many as there are. The class is missed where they
end. -/
def skip (cls : CharClass) : Parser Unit := fun cursor =>
  let next := cursor.after cls
  ⟨.done () next, .missed next.column (.character cls)⟩

/-- One or more characters of a class, as many as there are. The class is missed where they end. -/
def run (cls : CharClass) : Parser String := fun cursor =>
  let next := cursor.after cls
  let text := cursor.rest.takeWhile cls.contains
  ⟨if text.isEmpty then .mismatch else .done (String.ofList text) next,
    .missed next.column (.character cls)⟩

/-- No account is kept of acts. -/
instance : Combinators Parser where
  pure := pure
  bind := bind
  orElse := orElse
  optional := optional
  tooDeep := tooDeep
  terminal := terminal
  skip := skip
  run := run
  marked _ p := p

end Parser

end TagQuery
