import TagQuery.Proofs.Parser.Trace

/-!
# What a reader takes is in the language

Each rule of the reader against the relation of the same name. `cursor.rest` is the text that the
rule begins at and `next.rest` what it leaves.

* `isTag_of_reply`: a tag that is read is spelled as `IsTag` says.
* `isQuery_of_reply`: a query that is read within `levels` levels has a derivation in which every
  operand lies within these levels.
-/

namespace TagQuery.Parser

variable {cursor next : Cursor}

/-! ## Terminals, gaps and runs -/

theorem symbol_passes {s : Symbol} {u : Unit} (h : (symbol s cursor).reply = .done u next) :
    cursor.Passes s.text.toList next := by
  obtain ⟨word, rfl, hpasses⟩ := terminal_passes h
  exact hpasses

theorem keyword_passes {k : Keyword} {u : Unit} (h : (keyword k cursor).reply = .done u next) :
    ∃ word, (Terminal.keyword k).Matches word ∧ cursor.Passes word next :=
  terminal_passes h

theorem exists_eq_spaces {body : List Char} (h : ∀ c ∈ body, CharClass.space.contains c) :
    ∃ count, body = spaces count := by
  refine ⟨_, List.eq_replicate_iff.mpr ⟨rfl, fun c hc => ?_⟩⟩
  simpa [CharClass.contains] using h c hc

theorem gap_passes {u : Unit} (h : (gap cursor).reply = .done u next) :
    ∃ count, cursor.Passes (spaces count) next := by
  obtain rfl := reply_skip_eq_done.mp h
  obtain ⟨count, hcount⟩ := exists_eq_spaces
    (List.all_eq_true.mp (List.all_takeWhile : (cursor.rest.takeWhile _).all _ = true))
  refine ⟨count, ?_⟩
  rw [← hcount]
  exact cursor.passes_after .space

theorem run_passes {cls : CharClass} {text : String}
    (h : (run cls cursor).reply = .done text next) :
    ∃ body, body ≠ [] ∧ (∀ c ∈ body, cls.contains c) ∧ text = String.ofList body ∧
      cursor.Passes body next ∧ ∀ c ∈ next.rest.head?, ¬cls.contains c := by
  obtain ⟨hne, htext, rfl⟩ := reply_run_eq_done.mp h
  refine ⟨_, hne, List.all_eq_true.mp List.all_takeWhile, htext.symm, cursor.passes_after cls,
    fun c hc => ?_⟩
  have hhead := List.head?_dropWhile_not cls.contains cursor.rest
  rw [show (cursor.rest.dropWhile cls.contains).head? = some c from hc] at hhead
  simpa using hhead

/-! ## Values and tags -/

theorem isValue_of_reply {text : String} (h : (value cursor).reply = .done text next) :
    IsValue cursor.rest text next.rest := by
  rcases reply_orElse_eq_done.mp h with hbare | ⟨-, hquoted⟩
  · obtain ⟨word, hne, hword, rfl, hpasses, hends⟩ := run_passes hbare
    rw [hpasses.rest_eq]
    exact .bare hne hword hends
  · obtain ⟨_, _, hopen, hquoted⟩ := reply_bind_eq_done.mp hquoted
    obtain ⟨_, _, hbody, hquoted⟩ := reply_bind_eq_done.mp hquoted
    obtain ⟨_, _, hclose, hquoted⟩ := reply_bind_eq_done.mp hquoted
    obtain ⟨rfl, rfl⟩ := reply_pure_eq_done.mp hquoted
    obtain ⟨body, hne, hunquoted, rfl, hpasses, -⟩ := run_passes hbody
    rw [(symbol_passes hopen).rest_eq, hpasses.rest_eq, (symbol_passes hclose).rest_eq]
    refine .quoted hne fun hmem => ?_
    exact absurd (hunquoted _ hmem) (by decide)

theorem isTag_of_reply_tagOfKind {kind : TagKind} {t : Tag}
    (h : (tagOfKind kind cursor).reply = .done t next) : IsTag cursor.rest t next.rest := by
  obtain ⟨_, _, hopen, h⟩ := reply_bind_eq_done.mp h
  rw [(symbol_passes hopen).rest_eq]
  cases kind with
  | semantic =>
    obtain ⟨text, _, hvalue, h⟩ := reply_bind_eq_done.mp h
    obtain ⟨synonyms, _, hsynonyms, h⟩ := reply_bind_eq_done.mp h
    obtain ⟨rfl, rfl⟩ := reply_pure_eq_done.mp h
    have hvalue := isValue_of_reply hvalue
    rcases reply_optional_eq_done.mp hsynonyms with ⟨_, hsuffix, rfl⟩ | ⟨-, rfl, rfl⟩
    · rw [(symbol_passes hsuffix).rest_eq] at hvalue
      exact .synonyms hvalue
    · exact .semantic hvalue
  | keyword =>
    obtain ⟨text, _, hvalue, h⟩ := reply_bind_eq_done.mp h
    obtain ⟨rfl, rfl⟩ := reply_pure_eq_done.mp h
    exact .keyword (isValue_of_reply hvalue)
  | comment =>
    obtain ⟨text, _, hvalue, h⟩ := reply_bind_eq_done.mp h
    obtain ⟨rfl, rfl⟩ := reply_pure_eq_done.mp h
    exact .comment (isValue_of_reply hvalue)
  | regex =>
    obtain ⟨text, _, hbody, h⟩ := reply_bind_eq_done.mp h
    obtain ⟨_, _, hend, h⟩ := reply_bind_eq_done.mp h
    obtain ⟨rfl, rfl⟩ := reply_pure_eq_done.mp h
    obtain ⟨body, hne, hclass, rfl, hpasses, -⟩ := run_passes hbody
    rw [hpasses.rest_eq, (symbol_passes hend).rest_eq]
    exact .regex hne hclass

theorem isTag_of_reply {t : Tag} (h : (tag cursor).reply = .done t next) :
    IsTag cursor.rest t next.rest := by
  rcases reply_orElse_eq_done.mp h with h | ⟨-, h⟩
  · exact isTag_of_reply_tagOfKind h
  rcases reply_orElse_eq_done.mp h with h | ⟨-, h⟩
  · exact isTag_of_reply_tagOfKind h
  rcases reply_orElse_eq_done.mp h with h | ⟨-, h⟩ <;> exact isTag_of_reply_tagOfKind h

/-! ## Operands and queries -/

theorem operatorWord_passes {op found : Operator}
    (h : (operatorWord op cursor).reply = .done found next) :
    ∃ word, (Terminal.keyword (.operator found)).Matches word ∧ cursor.Passes word next := by
  obtain ⟨_, _, hword, h⟩ := reply_bind_eq_done.mp h
  obtain ⟨rfl, rfl⟩ := reply_pure_eq_done.mp h
  exact keyword_passes hword

theorem anyOperatorWord_passes {op : Operator}
    (h : (orElse (operatorWord .and) (orElse (operatorWord .or) (operatorWord .xor)) cursor).reply =
      .done op next) :
    ∃ word, (Terminal.keyword (.operator op)).Matches word ∧ cursor.Passes word next := by
  rcases reply_orElse_eq_done.mp h with h | ⟨-, h⟩
  · exact operatorWord_passes h
  · rcases reply_orElse_eq_done.mp h with h | ⟨-, h⟩ <;> exact operatorWord_passes h

theorem operator_passes {op : Operator} (h : (operator cursor).reply = .done op next) :
    ∃ before word after, (Terminal.keyword (.operator op)).Matches word ∧
      cursor.Passes (spaces before ++ word ++ spaces after) next := by
  obtain ⟨_, middle, hbefore, h⟩ := reply_bind_eq_done.mp h
  obtain ⟨found, last, hfound, h⟩ := reply_bind_eq_done.mp h
  obtain ⟨_, _, hafter, h⟩ := reply_bind_eq_done.mp h
  obtain ⟨rfl, rfl⟩ := reply_pure_eq_done.mp h
  obtain ⟨before, hbefore⟩ := gap_passes hbefore
  obtain ⟨word, hmatches, hword⟩ := anyOperatorWord_passes hfound
  obtain ⟨after, hafter⟩ := gap_passes hafter
  exact ⟨before, word, after, hmatches, (hbefore.trans hword).trans hafter⟩

variable {limit level : Nat} {e : Expr}

theorem isOperand_of_reply_tagOrGroup {inner : Parser Expr} (within : level ≤ limit)
    (hinner : ∀ {cursor next e}, (inner cursor).reply = .done e next →
      IsQuery limit (level + 1) cursor.rest e next.rest)
    (h : (tagOrGroup inner cursor).reply = .done e next) :
    IsOperand limit level cursor.rest e next.rest := by
  rcases reply_orElse_eq_done.mp h with h | ⟨-, h⟩
  · obtain ⟨t, _, htag, h⟩ := reply_bind_eq_done.mp h
    obtain ⟨rfl, rfl⟩ := reply_pure_eq_done.mp h
    exact .tag within (isTag_of_reply htag)
  · obtain ⟨_, _, hopen, h⟩ := reply_bind_eq_done.mp h
    obtain ⟨e, _, hquery, h⟩ := reply_bind_eq_done.mp h
    obtain ⟨_, _, hclose, h⟩ := reply_bind_eq_done.mp h
    obtain ⟨rfl, rfl⟩ := reply_pure_eq_done.mp h
    have hquery := hinner hquery
    rw [(symbol_passes hclose).rest_eq] at hquery
    rw [(symbol_passes hopen).rest_eq]
    exact .group within hquery

theorem isQuery_of_reply_negation {p : Parser Expr}
    (hp : ∀ {cursor next e}, (p cursor).reply = .done e next →
      IsOperand limit (level + 1) cursor.rest e next.rest)
    (h : (negation p cursor).reply = .done e next) :
    IsQuery limit level cursor.rest e next.rest := by
  obtain ⟨_, _, hbefore, h⟩ := reply_bind_eq_done.mp h
  obtain ⟨_, _, hword, h⟩ := reply_bind_eq_done.mp h
  obtain ⟨_, _, hafter, h⟩ := reply_bind_eq_done.mp h
  obtain ⟨operand, _, hoperand, h⟩ := reply_bind_eq_done.mp h
  obtain ⟨rfl, rfl⟩ := reply_pure_eq_done.mp h
  obtain ⟨before, hbefore⟩ := gap_passes hbefore
  obtain ⟨word, hmatches, hword⟩ := keyword_passes hword
  obtain ⟨after, hafter⟩ := gap_passes hafter
  rw [((hbefore.trans hword).trans hafter).rest_eq]
  exact .negation hmatches (hp hoperand)

theorem isQuery_of_reply_chain {right : Parser Expr} {left : Expr} {first : List Char}
    (hleft : IsOperand limit level first left cursor.rest)
    (hright : ∀ {cursor next e}, (right cursor).reply = .done e next →
      IsQuery limit (level + 1) cursor.rest e next.rest)
    (h : (chain left right cursor).reply = .done e next) : IsQuery limit level first e next.rest := by
  obtain ⟨_, last, hjoint, hend⟩ := reply_bind_eq_done.mp h
  rcases reply_optional_eq_done.mp hjoint with ⟨op, hop, rfl⟩ | ⟨-, rfl, rfl⟩
  · obtain ⟨right, _, hlink, hpure⟩ := reply_bind_eq_done.mp hend
    obtain ⟨rfl, rfl⟩ := reply_pure_eq_done.mp hpure
    obtain ⟨before, word, after, hmatches, hop⟩ := operator_passes hop
    rw [hop.rest_eq] at hleft
    exact .binary hleft hmatches (hright hlink)
  · obtain ⟨rfl, rfl⟩ := reply_pure_eq_done.mp hend
    exact .operand hleft

/-- A query that is read lies within the levels that are left. -/
theorem isQuery_of_reply {levels : Nat} (hlevels : level + levels = limit + 1)
    (h : (query levels cursor).reply = .done e next) :
    IsQuery limit level cursor.rest e next.rest := by
  refine (query_induction
    (P := fun levels p => ∀ {level cursor next e}, level + levels = limit + 1 →
      (p cursor).reply = .done e next → IsQuery limit level cursor.rest e next.rest)
    (Q := fun levels p => ∀ {level cursor next e}, level + levels = limit + 1 →
      (p cursor).reply = .done e next → IsOperand limit level cursor.rest e next.rest)
    ?_ ?_ ?_ ?_ levels).1 hlevels h
  · intro level cursor next e _ h
    cases h
  · intro below hquery hoperand level cursor next e hlevels h
    have within : level ≤ limit := by omega
    obtain ⟨_, middle, hfirst, hthen⟩ := reply_bind_eq_done.mp h
    rcases reply_optional_eq_done.mp hfirst with ⟨left, hleft, rfl⟩ | ⟨-, rfl, rfl⟩
    · have hleft := isOperand_of_reply_tagOrGroup within (hquery (by omega)) hleft
      exact isQuery_of_reply_chain hleft (hquery (by omega)) hthen
    · exact isQuery_of_reply_negation (hoperand (by omega)) hthen
  · intro level cursor next e _ h
    cases h
  · intro below hquery level cursor next e hlevels h
    exact isOperand_of_reply_tagOrGroup (by omega) (hquery (by omega)) h

end TagQuery.Parser
