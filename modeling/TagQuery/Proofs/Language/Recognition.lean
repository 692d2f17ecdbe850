import TagQuery.Proofs.Grammar
import TagQuery.Proofs.Language.Completeness
import TagQuery.Proofs.Language.Soundness

/-!
# A grammar accepts exactly its language

* `Grammar.parse_eq_ok_iff_isQuery`: a text is accepted as an expression exactly if the whole of it
  is a spelling of a query on level zero that stands for this expression and has every operand
  within the limit. In particular a text stands for one expression at most.
-/

namespace TagQuery

namespace Parser

theorem wholeQuery_eq_done {limit : Nat} {cursor next : Cursor} {e : Expr} :
    (wholeQuery limit cursor).reply = .done e next ↔
      (query (limit + 1) cursor).reply = .done e next ∧ next.rest = [] := by
  constructor
  · intro h
    obtain ⟨_, middle, hquery, h⟩ := reply_bind_eq_done.mp h
    obtain ⟨_, last, hend, h⟩ := reply_bind_eq_done.mp h
    obtain ⟨rfl, rfl⟩ := reply_pure_eq_done.mp h
    obtain ⟨hstrip, hcolumn⟩ := reply_terminal_eq_done.mp hend
    obtain ⟨_, rfl, hmiddle, hrest⟩ := Terminal.strip?_eq_some_iff.mp hstrip
    have hlast : last = middle := by
      cases middle
      cases last
      simp_all [Terminal.width]
    rw [hlast]
    exact ⟨hquery, by rw [← hlast]; exact hrest rfl⟩
  · rintro ⟨hquery, hrest⟩
    refine reply_bind_eq_done.mpr ⟨e, next, hquery, reply_bind_eq_done.mpr ⟨(), next, ?_, rfl⟩⟩
    refine reply_terminal_eq_done.mpr ⟨?_, rfl⟩
    rw [hrest]
    rfl

end Parser

namespace Grammar

variable {g : Grammar} {text : String} {e : Expr}

theorem isQuery_of_parse (h : g.parse text = .ok e) : IsQuery g.maxDepth 0 text.toList e [] := by
  obtain ⟨next, hnext⟩ := parse_eq_ok.mp h
  obtain ⟨hquery, hrest⟩ := Parser.wholeQuery_eq_done.mp hnext
  have hquery := Parser.isQuery_of_reply (Nat.zero_add _) hquery
  rwa [hrest] at hquery

theorem parse_of_isQuery (h : IsQuery g.maxDepth 0 text.toList e []) : g.parse text = .ok e := by
  obtain ⟨column, hquery⟩ := Parser.reads_query (Nat.zero_add _) h nofun 0
  exact parse_eq_ok.mpr ⟨_, Parser.wholeQuery_eq_done.mpr ⟨hquery, rfl⟩⟩

/-- **The accepted language.** A grammar accepts a text as an expression exactly if the text is a
spelling of this expression in which every operand lies within the limit. -/
theorem parse_eq_ok_iff_isQuery (g : Grammar) (text : String) (e : Expr) :
    g.parse text = .ok e ↔ IsQuery g.maxDepth 0 text.toList e [] :=
  ⟨isQuery_of_parse, parse_of_isQuery⟩

end Grammar

end TagQuery
