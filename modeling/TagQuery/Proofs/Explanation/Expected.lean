import TagQuery.Proofs.Grammar
import TagQuery.Proofs.Parser.Alike
import TagQuery.Proofs.Parser.Composed

/-!
# What an explanation is made of

* `Grammar.unexpected_eq`: the parts of an explanation, by the trace that it draws on.
* `Grammar.mem_expected`: an explanation lists what was missed at the furthest column.
* `Grammar.exists_mem_expected`: it lists something. `Grammar.column_le_length`: its column lies in
  the text or at its end.
-/

namespace TagQuery.Grammar

variable {g : Grammar} {text : String} {column : Nat} {expected : List Terminal}
  {found : Option Char}

theorem unexpected_eq (h : g.parse text = .error (.unexpected column expected found)) :
    column = (Parser.wholeQuery g.maxDepth (Cursor.start text)).trace.furthest ∧
      expected = Terminal.all.filter
        ((Parser.wholeQuery g.maxDepth (Cursor.start text)).trace.missedAt column).contains ∧
      found = text.toList[column]? := by
  obtain ⟨-, htrace⟩ := parse_eq_unexpected.mp h
  obtain ⟨rfl, hexpected, hfound⟩ := Rejection.unexpected.inj htrace
  exact ⟨rfl, hexpected.symm, hfound.symm⟩

theorem mem_expected (h : g.parse text = .error (.unexpected column expected found)) :
    column = (Parser.wholeQuery g.maxDepth (Cursor.start text)).trace.furthest ∧
      ∀ t, t ∈ expected ↔
        (column, t) ∈ (Parser.wholeQuery g.maxDepth (Cursor.start text)).trace.toList := by
  obtain ⟨hcolumn, hexpected, -⟩ := unexpected_eq h
  refine ⟨hcolumn, fun t => ?_⟩
  rw [hexpected]
  simp [Trace.mem_missedAt]

/-- There is no mismatch without a reason. -/
theorem exists_mem_expected (h : g.parse text = .error (.unexpected column expected found)) :
    ∃ t, t ∈ expected := by
  obtain ⟨hcolumn, hexpected⟩ := mem_expected h
  obtain ⟨hmismatch, -⟩ := parse_eq_unexpected.mp h
  obtain ⟨_, _, hmem⟩ := Parser.wholeQuery_explains hmismatch
  obtain ⟨t, ht⟩ := Trace.exists_mem_furthest_of_mem hmem
  rw [← hcolumn] at ht
  exact ⟨t, (hexpected t).mpr ht⟩

theorem column_le_length (h : g.parse text = .error (.unexpected column expected found)) :
    column ≤ text.length := by
  obtain ⟨t, ht⟩ := exists_mem_expected h
  exact Parser.wholeQuery_column_le (((mem_expected h).2 t).mp ht)

end TagQuery.Grammar
