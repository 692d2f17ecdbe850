import TagQuery.Language.Acceptance
import TagQuery.Proofs.Explanation.Decisive
import TagQuery.Proofs.Explanation.Expected
import TagQuery.Proofs.Language.Limit
import TagQuery.Proofs.Parser.Tracks

/-!
# An explanation leaves nothing out

If a text were accepted that goes on after the column with something else than what is listed, then
the reader would miss on it all that it missed before, and so reject it as well. For the terminals
at the column this is the assumption. Those missed before it do not begin with the character that
stands where they were missed, since a near miss is the end of a query.

* `Grammar.missedToo_of_expected`: what is missed on the one text is missed on the other too.
* `Grammar.explanation_exhaustive`: whatever may come next is listed.
-/

namespace TagQuery.Grammar

variable {g : Grammar} {text : String} {column : Nat} {expected : List Terminal}
  {found : Option Char} {common tail other : List Char}

theorem missedToo_of_expected (htext : text.toList = common ++ tail)
    (hcolumn : common.length = column)
    (h : g.parse text = .error (.unexpected column expected found))
    (hother : ∀ t ∈ expected, t.strip? other = none) :
    Parser.MissedToo common other
      (Parser.wholeQuery g.maxDepth (.ofColumn (common ++ tail) 0)).trace := by
  obtain ⟨hfurthest, hexpected⟩ := mem_expected h
  rw [Cursor.start_eq_ofColumn, htext] at hfurthest hexpected
  intro missed t hmem
  have hle : missed ≤ column := hfurthest ▸ Trace.le_furthest hmem
  refine ⟨hcolumn ▸ hle, ?_⟩
  rcases Nat.lt_or_eq_of_le hle with hlt | rfl
  · obtain ⟨last, hlast⟩ := Trace.exists_mem_furthest_of_mem hmem
    rw [← hfurthest] at hlast
    have hfar : ¬IsNear (common ++ tail) missed t := fun hnear =>
      Nat.not_le_of_lt hlt (Parser.wholeQuery_last hmem hnear hlast)
    have hinside : missed < common.length := hcolumn ▸ hlt
    rw [List.drop_append_of_le_length (Nat.le_of_lt hinside), List.drop_eq_getElem_cons hinside]
    refine Terminal.strip?_of_not_canBegin (fun c hc hbegins => hfar ⟨c, ?_, hbegins⟩)
      fun _ => List.cons_ne_nil _ _
    rw [List.getElem?_append_left hinside, List.getElem?_eq_getElem hinside]
    exact hc
  · rw [← hcolumn, List.drop_left]
    exact hother t ((hexpected t).mpr hmem)

/-- A text that goes on after the column with nothing that is listed is not accepted. -/
theorem not_isAccepted_of_expected (h : g.parse text = .error (.unexpected column expected found))
    (hother : ∀ t ∈ expected, t.strip? other = none) :
    ¬IsAccepted (text.toList.take column ++ other) := by
  rintro ⟨low, e, haccepted⟩
  -- Under a limit that is no lower than both, the one is accepted and the other rejected.
  obtain ⟨high, hg, hlow⟩ : ∃ high : Grammar, g.maxDepth ≤ high.maxDepth ∧
      low.maxDepth ≤ high.maxDepth :=
    ⟨⟨max g.maxDepth low.maxDepth⟩, Nat.le_max_left _ _, Nat.le_max_right _ _⟩
  have hrejected := parse_unexpected_of_le hg h
  have haccepted := parse_of_le hlow haccepted
  have htext : text.toList = text.toList.take column ++ text.toList.drop column :=
    (List.take_append_drop column text.toList).symm
  have hcolumn : (text.toList.take column).length = column := by
    rw [List.length_take, String.length_toList]
    exact Nat.min_eq_left (column_le_length h)
  have hmissed := missedToo_of_expected htext hcolumn hrejected hother
  obtain ⟨hmismatch, -⟩ := parse_eq_unexpected.mp hrejected
  rw [Cursor.start_eq_ofColumn, htext] at hmismatch
  have hreply : (Parser.wholeQuery high.maxDepth
      (Cursor.start (String.ofList (text.toList.take column ++ other)))).reply = .mismatch := by
    rw [Cursor.start_eq_ofColumn, String.toList_ofList,
      Parser.wholeQuery_tracks hmismatch hmissed]
    exact hmismatch
  rw [parse_of_mismatch hreply] at haccepted
  cases haccepted

/-- **An explanation leaves nothing out.** If the text before the column can be completed with a
character to come next, then this character begins something that is listed. And if it is accepted
as it is, the end of the text is listed. -/
theorem explanation_exhaustive (h : g.parse text = .error (.unexpected column expected found)) :
    (∀ c, IsViable (text.toList.take column ++ [c]) → ∃ t ∈ expected, t.CanBegin c) ∧
      (IsAccepted (text.toList.take column) → .endOfInput ∈ expected) := by
  constructor
  · rintro c ⟨rest, haccepted⟩
    by_cases hlisted : ∃ t ∈ expected, t.CanBegin c
    · exact hlisted
    · have hother : ∀ t ∈ expected, t.strip? (c :: rest) = none := by
        intro t ht
        refine Terminal.strip?_of_not_canBegin (fun d hd hbegins => ?_) fun _ => List.cons_ne_nil c rest
        cases hd
        exact hlisted ⟨t, ht, hbegins⟩
      rw [List.append_assoc] at haccepted
      exact absurd haccepted (not_isAccepted_of_expected h hother)
  · intro haccepted
    by_cases hlisted : Terminal.endOfInput ∈ expected
    · exact hlisted
    · have hother : ∀ t ∈ expected, t.strip? [] = none := by
        intro t ht
        refine Terminal.strip?_of_not_canBegin nofun fun hend => ?_
        rw [hend] at ht
        exact absurd ht hlisted
      rw [← List.append_nil (text.toList.take column)] at haccepted
      exact absurd haccepted (not_isAccepted_of_expected h hother)

/-- In a pattern that has just begun. -/
theorem explanation_exhaustive_pattern :
    (Grammar.mk 8).parse "(r:/" = .error (.unexpected 4 [.character .pattern] none) ∧
      (∀ c, IsViable ("(r:/".toList.take 4 ++ [c]) →
        ∃ t ∈ [.character .pattern], Terminal.CanBegin t c) ∧
      (IsAccepted ("(r:/".toList.take 4) → Terminal.endOfInput ∈ [.character .pattern]) := by
  have h : (Grammar.mk 8).parse "(r:/" = .error (.unexpected 4 [.character .pattern] none) := rfl
  exact ⟨h, explanation_exhaustive h⟩

end TagQuery.Grammar
