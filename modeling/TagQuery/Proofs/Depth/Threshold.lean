import Mathlib.Data.Nat.Find
import TagQuery.Proofs.Depth.Overrun
import TagQuery.Proofs.Language.Limit
import TagQuery.Proofs.Language.Recognition

/-!
# The nesting limit as a threshold

* `Grammar.parse_threshold`: for every text there is a limit, no higher than the text is long, from
  which on the result stays the same. Below it the text is rejected for the limit, and a higher
  limit is exceeded further on in the text.
* `Grammar.parse_of_take_tooDeep`: where the limit is exceeded does not depend on what follows, and
  one level more would let the text before it be completed.
-/

namespace TagQuery

namespace Parser

theorem wholeQuery_eq_tooDeep {limit column : Nat} {cursor : Cursor} :
    (wholeQuery limit cursor).reply = .tooDeep column ↔
      (query (limit + 1) cursor).reply = .tooDeep column := by
  refine ⟨fun h => ?_, fun h => reply_bind_eq_tooDeep.mpr (.inl h)⟩
  rcases reply_bind_eq_tooDeep.mp h with h | ⟨e, next, -, h⟩
  · exact h
  · exact absurd h ((flat_terminal _).bind (fun _ => flat_pure _) next column)

end Parser

namespace Grammar

variable {g : Grammar} {text : String} {column limit : Nat} {read : List Char}

/-! ## Texts that overrun -/

/-- The text before the column of the notice overruns. -/
theorem overruns_of_parse (h : g.parse text = .error (.tooDeep column limit)) :
    column ≤ text.length ∧ OverrunsQuery g.maxDepth 0 (text.toList.take column) := by
  obtain ⟨-, hdeep⟩ := parse_eq_tooDeep.mp h
  have hquery := Parser.wholeQuery_eq_tooDeep.mp hdeep
  exact (Parser.overrunsQuery_of_tooDeep (Nat.zero_add _) hquery).of_start

/-- Every text that begins with one that overruns is rejected, and not before this one ends. -/
theorem parse_of_overruns (h : OverrunsQuery g.maxDepth 0 read) (hread : read <+: text.toList) :
    ∃ column ≥ read.length, g.parse text = .error (.tooDeep column g.maxDepth) := by
  obtain ⟨rest, hrest⟩ := hread
  obtain ⟨deep, hle, hdeep⟩ := Parser.runsOut_query (Nat.zero_add _) h rest 0
  rw [hrest] at hle hdeep
  refine ⟨deep, ?_, parse_eq_tooDeep.mpr ⟨rfl, Parser.wholeQuery_eq_tooDeep.mpr hdeep⟩⟩
  rw [← hrest, List.length_append] at hle
  omega

/-- A text that overruns begins one that is accepted if there is one level more. -/
theorem exists_parse_of_overruns (h : OverrunsQuery limit 0 read) :
    ∃ (text : String) (e : Expr), read <+: text.toList ∧ (Grammar.mk (limit + 1)).parse text = .ok e := by
  obtain ⟨tail, e, he⟩ := h.begins
  have hquery : IsQuery (limit + 1) 0 (read ++ tail) e [] := by
    have hnil := he [] endsWord_nil
    rwa [List.append_nil] at hnil
  refine ⟨String.ofList (read ++ tail), e, ?_, parse_of_isQuery ?_⟩
  · rw [String.toList_ofList]
    exact List.prefix_append read tail
  · rw [String.toList_ofList]
    exact hquery

/-! ## Two limits -/

/-- Under a higher limit that is still too low, the text is rejected further on. -/
theorem column_lt_of_parse {low high : Grammar} {deep deeper : Nat}
    (hlt : low.maxDepth < high.maxDepth) (hlow : low.parse text = .error (.tooDeep deep low.maxDepth))
    (hhigh : high.parse text = .error (.tooDeep deeper high.maxDepth)) : deep < deeper := by
  refine Nat.lt_of_not_le fun hle => ?_
  obtain ⟨-, hdeep⟩ := overruns_of_parse hlow
  obtain ⟨-, hdeeper⟩ := overruns_of_parse hhigh
  -- What overruns the higher limit would begin a text that is accepted under it.
  obtain ⟨other, e, hother, haccepted⟩ := exists_parse_of_overruns hdeep
  have hbegin : text.toList.take deeper <+: text.toList.take deep :=
    List.take_prefix_take_left hle
  obtain ⟨column, -, hrejected⟩ := parse_of_overruns hdeeper (hbegin.trans hother)
  have hhigher : high.parse other = .ok e := parse_of_le hlt haccepted
  rw [hhigher] at hrejected
  cases hrejected

/-- A limit that is no lower than the text is long cannot be exceeded. -/
theorem parse_ne_tooDeep (h : text.length ≤ g.maxDepth) :
    g.parse text ≠ .error (.tooDeep column limit) := by
  intro hparse
  obtain ⟨hle, hover⟩ := overruns_of_parse hparse
  have hlt := hover.lt_length
  rw [List.length_take, String.length_toList] at hlt
  omega

/-- There is a least limit that is not exceeded. -/
theorem exists_threshold (text : String) :
    ∃ threshold ≤ text.length,
      (∀ deep limit, (Grammar.mk threshold).parse text ≠ .error (.tooDeep deep limit)) ∧
      ∀ limit < threshold, ∃ column, (Grammar.mk limit).parse text = .error (.tooDeep column limit) := by
  classical
  have hlength : ∀ deep limit, (Grammar.mk text.length).parse text ≠ .error (.tooDeep deep limit) :=
    fun _ _ => parse_ne_tooDeep (Nat.le_refl _)
  have hexists : ∃ threshold, ∀ deep limit,
      (Grammar.mk threshold).parse text ≠ .error (.tooDeep deep limit) := ⟨_, hlength⟩
  refine ⟨Nat.find hexists, Nat.find_min' hexists hlength, Nat.find_spec hexists, ?_⟩
  intro limit hlt
  obtain ⟨column, named, hdeep⟩ : ∃ column named,
      (Grammar.mk limit).parse text = .error (.tooDeep column named) := by
    refine Classical.byContradiction fun hno => Nat.find_min hexists hlt ?_
    exact fun deep named hdeep => hno ⟨deep, named, hdeep⟩
  obtain ⟨rfl, -⟩ := parse_eq_tooDeep.mp hdeep
  exact ⟨column, hdeep⟩

/-- **The limit is a threshold.** For every text there is a limit, no higher than the text is long,
from which on all grammars give the same result, which is not about the limit. All grammars below it
reject the text for their limit, the higher ones further on in the text. So a higher limit never
takes back an expression, and none is exceeded that reaches the length of the text. -/
theorem parse_threshold (text : String) :
    ∃ threshold ≤ text.length, ∃ (result : Except Rejection Expr) (column : Nat → Nat),
      (∀ deep limit, result ≠ .error (.tooDeep deep limit)) ∧
      (∀ g : Grammar, threshold ≤ g.maxDepth → g.parse text = result) ∧
      (∀ g : Grammar, g.maxDepth < threshold →
        g.parse text = .error (.tooDeep (column g.maxDepth) g.maxDepth)) ∧
      (∀ low high, low < high → high < threshold → column low < column high) ∧
      (∀ (low high : Grammar) (e : Expr), low.maxDepth ≤ high.maxDepth →
        low.parse text = .ok e → high.parse text = .ok e) ∧
      (∀ g : Grammar, text.length ≤ g.maxDepth →
        ∀ deep limit, g.parse text ≠ .error (.tooDeep deep limit)) := by
  obtain ⟨threshold, hle, hresult, hbelow⟩ := exists_threshold text
  have hcolumns : ∀ limit, ∃ column, limit < threshold →
      (Grammar.mk limit).parse text = .error (.tooDeep column limit) := by
    intro limit
    by_cases hlt : limit < threshold
    · obtain ⟨column, hdeep⟩ := hbelow limit hlt
      exact ⟨column, fun _ => hdeep⟩
    · exact ⟨0, fun h => absurd h hlt⟩
  obtain ⟨column, hcolumn⟩ := Classical.skolem.mp hcolumns
  refine ⟨threshold, hle, (Grammar.mk threshold).parse text, column, hresult, ?_,
    fun g => hcolumn g.maxDepth, ?_, fun low high e => parse_of_le,
    fun g hlength deep limit => parse_ne_tooDeep hlength⟩
  · intro g hg
    rcases parse_eq_or_tooDeep (g := Grammar.mk threshold) hg text with hsame | ⟨deep, hdeep⟩
    · exact hsame.symm
    · exact absurd hdeep (hresult deep threshold)
  · intro low high hlt hhigh
    have hlow := hcolumn low (Nat.lt_trans hlt hhigh)
    exact column_lt_of_parse hlt hlow (hcolumn high hhigh)

/-- **The notice is definite and tight.** What makes a grammar give up is the text before the
column: every text that begins with it is rejected for the limit, at this column or further on. And
one level more would be enough for some text that begins with it. -/
theorem parse_of_take_tooDeep (h : g.parse text = .error (.tooDeep column limit)) :
    limit = g.maxDepth ∧ column ≤ text.length ∧
      (∀ other : String, text.toList.take column <+: other.toList →
        ∃ later ≥ column, g.parse other = .error (.tooDeep later g.maxDepth)) ∧
      ∃ (other : String) (e : Expr), text.toList.take column <+: other.toList ∧
        (Grammar.mk (g.maxDepth + 1)).parse other = .ok e := by
  obtain ⟨hcolumn, hover⟩ := overruns_of_parse h
  have hlimit := (parse_eq_tooDeep.mp h).1
  have hlength : (text.toList.take column).length = column := by
    rw [List.length_take, String.length_toList]
    exact Nat.min_eq_left hcolumn
  refine ⟨hlimit, hcolumn, fun other hother => ?_, exists_parse_of_overruns hover⟩
  have hrejected := parse_of_overruns hover hother
  rwa [hlength] at hrejected

/-- The rest of the link does not matter: it may be missing, be wrong, or begin with more spaces. -/
theorem parse_of_take_tooDeep_link :
    (Grammar.mk 0).parse "s:a AND s:b" = .error (.tooDeep 8 0) ∧
      (∀ other : String, "s:a AND ".toList <+: other.toList →
        ∃ later ≥ 8, (Grammar.mk 0).parse other = .error (.tooDeep later 0)) ∧
      ∃ (other : String) (e : Expr), "s:a AND ".toList <+: other.toList ∧
        (Grammar.mk 1).parse other = .ok e := by
  have h : (Grammar.mk 0).parse "s:a AND s:b" = .error (.tooDeep 8 0) := rfl
  obtain ⟨-, -, hother⟩ := parse_of_take_tooDeep h
  exact ⟨h, hother⟩

end Grammar

end TagQuery
