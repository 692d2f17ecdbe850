import TagQuery.Proofs.Language.Canonical
import TagQuery.Proofs.Language.Limit
import TagQuery.Proofs.Language.Recognition

/-!
# Reading canonical text

* `Grammar.parse_text_of_parse`: the canonical text of an expression that was read is read as this
  expression under the same limit, so it needs no more levels than the text it came from.
* `Grammar.parse_text_iff`: of all expressions, also those built by hand with any values, exactly
  those read back whose tags are well formed and whose nesting is within the limit. Where only the
  nesting is not, the limit is what the rejection names.
-/

namespace TagQuery.Grammar

variable {g : Grammar} {text : String} {e : Expr}

theorem parse_text_of_nesting_le (hleaves : ∀ t ∈ e.leaves, t.isWellFormed)
    (hnesting : e.nesting ≤ g.maxDepth) : g.parse e.text = .ok e := by
  have h : IsQuery g.maxDepth 0 (e.text.toList ++ []) e [] :=
    isQuery_text hleaves (by omega) nofun
  rw [List.append_nil] at h
  exact parse_of_isQuery h

theorem isWellFormed_of_parse (h : g.parse text = .ok e) : ∀ t ∈ e.leaves, t.isWellFormed :=
  (isQuery_of_parse h).isWellFormed_of_mem_leaves

theorem nesting_le_of_parse (h : g.parse text = .ok e) : e.nesting ≤ g.maxDepth := by
  have hnesting := (isQuery_of_parse h).nesting_le
  omega

/-- Canonical text that nests too deep for the limit is rejected for this reason alone. -/
theorem parse_text_of_lt_nesting (hleaves : ∀ t ∈ e.leaves, t.isWellFormed)
    (hnesting : g.maxDepth < e.nesting) :
    ∃ column, g.parse e.text = .error (.tooDeep column g.maxDepth) := by
  -- Under a limit that is just high enough the text is read back.
  have hhigh : (Grammar.mk e.nesting).parse e.text = .ok e :=
    parse_text_of_nesting_le hleaves (Nat.le_refl _)
  have hle : g.maxDepth ≤ (Grammar.mk e.nesting).maxDepth := Nat.le_of_lt hnesting
  rcases parse_eq_or_tooDeep hle e.text with hsame | hdeep
  · have hnesting' := nesting_le_of_parse (hsame.trans hhigh)
    omega
  · exact hdeep

/-- **Canonical text reads back.** The canonical text of an expression that was read from some text
is read as the same expression under the same limit. -/
theorem parse_text_of_parse (h : g.parse text = .ok e) : g.parse e.text = .ok e :=
  parse_text_of_nesting_le (isWellFormed_of_parse h) (nesting_le_of_parse h)

/-- Redundant parentheses and quotation marks are gone from the canonical text. -/
theorem parse_text_of_parse_redundant :
    (Grammar.mk 4).parse "(s:\"ab\")and  (not(k:b))" =
        .ok (.binary .and (.tag (.semantic "ab" false)) (.negation (.tag (.keyword "b")))) ∧
      (Grammar.mk 4).parse "s:ab AND NOT k:b" =
        .ok (.binary .and (.tag (.semantic "ab" false)) (.negation (.tag (.keyword "b")))) := by
  have h : (Grammar.mk 4).parse "(s:\"ab\")and  (not(k:b))" =
      .ok (.binary .and (.tag (.semantic "ab" false)) (.negation (.tag (.keyword "b")))) := rfl
  have htext : Expr.text (.binary .and (.tag (.semantic "ab" false))
      (.negation (.tag (.keyword "b")))) = "s:ab AND NOT k:b" := rfl
  exact ⟨h, htext ▸ parse_text_of_parse h⟩

/-- **Which expressions read back.** The canonical text of an expression is read as this expression
exactly if all its tags are well formed and its nesting is within the limit; if only the nesting is
not, the text is rejected as nesting deeper than the limit. -/
theorem parse_text_iff (g : Grammar) (e : Expr) :
    (g.parse e.text = .ok e ↔ (∀ t ∈ e.leaves, t.isWellFormed) ∧ e.nesting ≤ g.maxDepth) ∧
      ((∀ t ∈ e.leaves, t.isWellFormed) → ¬e.nesting ≤ g.maxDepth →
        ∃ column, g.parse e.text = .error (.tooDeep column g.maxDepth)) := by
  refine ⟨⟨fun h => ?_, fun ⟨hleaves, hnesting⟩ => ?_⟩, fun hleaves hnesting => ?_⟩
  · exact ⟨isWellFormed_of_parse h, nesting_le_of_parse h⟩
  · exact parse_text_of_nesting_le hleaves hnesting
  · exact parse_text_of_lt_nesting hleaves (Nat.lt_of_not_le hnesting)

end TagQuery.Grammar
