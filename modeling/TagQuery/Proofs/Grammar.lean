import TagQuery.Grammar

/-!
# The result of a grammar

A grammar's result by the outcome of the reader: the expression that was read, the explanation of
the trace, or the column from which the query nests too deep (`Grammar.parse_of_done`,
`Grammar.parse_of_mismatch`, `Grammar.parse_of_tooDeep`), and the other way round
(`Grammar.parse_eq_ok`, `Grammar.parse_eq_unexpected`, `Grammar.parse_eq_tooDeep`).
-/

namespace TagQuery.Grammar

variable {g : Grammar} {text : String} {e : Expr}

theorem parse_of_done {next : Cursor}
    (h : (Parser.wholeQuery g.maxDepth (Cursor.start text)).reply = .done e next) :
    g.parse text = .ok e := by
  unfold parse
  generalize Parser.wholeQuery g.maxDepth (Cursor.start text) = outcome at h ⊢
  simp only [h]

theorem parse_of_mismatch
    (h : (Parser.wholeQuery g.maxDepth (Cursor.start text)).reply = .mismatch) :
    g.parse text = .error
      (.ofTrace text.toList (Parser.wholeQuery g.maxDepth (Cursor.start text)).trace) := by
  unfold parse
  generalize Parser.wholeQuery g.maxDepth (Cursor.start text) = outcome at h ⊢
  simp only [h]

theorem parse_of_tooDeep {column : Nat}
    (h : (Parser.wholeQuery g.maxDepth (Cursor.start text)).reply = .tooDeep column) :
    g.parse text = .error (.tooDeep column g.maxDepth) := by
  unfold parse
  generalize Parser.wholeQuery g.maxDepth (Cursor.start text) = outcome at h ⊢
  simp only [h]

theorem parse_eq_ok : g.parse text = .ok e ↔
    ∃ next, (Parser.wholeQuery g.maxDepth (Cursor.start text)).reply = .done e next := by
  refine ⟨fun h => ?_, fun ⟨next, hnext⟩ => parse_of_done hnext⟩
  cases hreply : (Parser.wholeQuery g.maxDepth (Cursor.start text)).reply with
  | done e' next =>
    rw [parse_of_done hreply] at h
    cases h
    exact ⟨next, rfl⟩
  | mismatch =>
    rw [parse_of_mismatch hreply] at h
    cases h
  | tooDeep column =>
    rw [parse_of_tooDeep hreply] at h
    cases h

/-- The notice names the limit of the grammar. -/
theorem parse_eq_tooDeep {column limit : Nat} : g.parse text = .error (.tooDeep column limit) ↔
    limit = g.maxDepth ∧
      (Parser.wholeQuery g.maxDepth (Cursor.start text)).reply = .tooDeep column := by
  refine ⟨fun h => ?_, fun ⟨hlimit, hdeep⟩ => hlimit ▸ parse_of_tooDeep hdeep⟩
  cases hreply : (Parser.wholeQuery g.maxDepth (Cursor.start text)).reply with
  | done e next =>
    rw [parse_of_done hreply] at h
    cases h
  | mismatch =>
    rw [parse_of_mismatch hreply] at h
    cases h
  | tooDeep deep =>
    rw [parse_of_tooDeep hreply] at h
    cases h
    exact ⟨rfl, rfl⟩

theorem parse_eq_unexpected {column : Nat} {expected : List Terminal} {found : Option Char} :
    g.parse text = .error (.unexpected column expected found) ↔
      (Parser.wholeQuery g.maxDepth (Cursor.start text)).reply = .mismatch ∧
        Rejection.ofTrace text.toList (Parser.wholeQuery g.maxDepth (Cursor.start text)).trace =
          .unexpected column expected found := by
  constructor
  · intro h
    cases hreply : (Parser.wholeQuery g.maxDepth (Cursor.start text)).reply with
    | done e next =>
      rw [parse_of_done hreply] at h
      cases h
    | mismatch =>
      rw [parse_of_mismatch hreply] at h
      exact ⟨rfl, Except.error.inj h⟩
    | tooDeep deep =>
      rw [parse_of_tooDeep hreply] at h
      cases h
  · rintro ⟨hmismatch, htrace⟩
    rw [parse_of_mismatch hmismatch, htrace]

end TagQuery.Grammar
