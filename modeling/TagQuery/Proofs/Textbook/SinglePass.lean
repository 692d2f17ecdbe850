import TagQuery.Proofs.Grammar
import TagQuery.Proofs.Textbook.Chain

/-!
# The reader is the textbook in a single pass

The reader tries the first operand of a query once and goes on from there. The textbook tries every
alternative from the start again. Both come to the same:

* `Parser.query_follows`: a query follows the textbook's query.
* `Grammar.parse_eq_textbook`: under a limit that no operand of the text can exceed, a grammar and
  the textbook give the same expression or the same rejection.
-/

namespace TagQuery

open Textbook (alternatives links)

namespace Parser

variable {p q : Parser Expr} {cursor next : Cursor} {left : Expr} {t u : Trace} {below : Nat}

/-! ## By the first operand -/

section Alternatives

variable {f : Expr → Parser Expr}

/-- Where an operand is read, the alternatives come to what follows it or to the operand alone. -/
private theorem alternatives_of_done (hp : p cursor = ⟨.done left next, u⟩)
    (hq : (q cursor).Like next.column ⟨.mismatch, .empty⟩) :
    (orElse (p >>= f) (orElse q p) cursor).Like next.column
      ((orElse (f left) (Pure.pure left) next).after u) := by
  have hthen : (p >>= f) cursor = _ := bind_of_done hp
  rcases hf : f left next with ⟨_ | _ | _, v⟩
  · rw [hf] at hthen
    rw [orElse_of_done hthen, orElse_of_done hf]
    exact .refl _ _
  · rw [hf] at hthen
    have hoperand := miss_orElse_like (q := p) hq
    rw [hp] at hoperand
    rw [orElse_of_mismatch hthen, orElse_of_mismatch hf]
    refine (hoperand.after (.refl _ _)).trans ⟨rfl, fun column terminal _ => ?_⟩
    simp only [Outcome.after_trace, pure_apply, Trace.toList_append, Trace.toList_empty,
      List.mem_append]
    grind
  · rw [hf] at hthen
    rw [orElse_of_tooDeep hthen, orElse_of_tooDeep hf]
    exact .refl _ _

/-- Where no operand is read, the alternatives come to the negation. -/
private theorem alternatives_of_mismatch (hp : p cursor = ⟨.mismatch, u⟩) :
    (orElse (p >>= f) (orElse q p) cursor).Like 0 ((q cursor).after u) := by
  have hthen : (p >>= f) cursor = _ := bind_of_mismatch hp
  rw [orElse_of_mismatch hthen]
  rcases hq : q cursor with ⟨_ | _ | _, v⟩
  · rw [orElse_of_done hq]
    exact .refl _ _
  · rw [orElse_of_mismatch hq, hp]
    refine ⟨rfl, fun column terminal _ => ?_⟩
    simp only [Outcome.after_trace, Trace.toList_append, List.mem_append]
    grind
  · rw [orElse_of_tooDeep hq]
    exact .refl _ _

end Alternatives

/-- After its first operand a query follows the textbook's. -/
private theorem query_of_done (hx : tagOrGroup (query below) cursor = ⟨.done left next, t⟩)
    (hy : tagOrGroup q cursor = ⟨.done left next, u⟩) (alike : t.Alike next.column u)
    (hquery : FollowsAfter cursor (query below) q) :
    (query (below + 1) cursor).Follows cursor.column (alternatives q cursor) := by
  obtain ⟨hreaches, hlt⟩ := consumes_tagOrGroup (forward_query below) cursor left next (by rw [hx])
  have hreader : query (below + 1) cursor = (chain left (query below) next).after t := by
    rw [query_succ]
    exact bind_of_done (optional_of_done hx)
  have hchain := chain_follows left (hquery.mono (Nat.le_of_lt (hreaches.length_lt hlt)))
  have hnegation := negation_like_of_done (congrArg Outcome.reply hy) (tagOrGroup q)
  have htextbook := alternatives_of_done (f := fun left => links left q) hy (hnegation.mono hlt)
  rw [hreader]
  exact ((hchain.after alike).trans_like htextbook.symm).mono hreaches.column_le

/-- Without a first operand a query follows the textbook's. -/
private theorem query_of_mismatch {column : Nat}
    (hx : tagOrGroup (query below) cursor = ⟨.mismatch, t⟩)
    (hy : tagOrGroup q cursor = ⟨.mismatch, u⟩) (le : cursor.column ≤ column)
    (reached : column ≤ t.furthest) (alike : t.Alike column u)
    (hoperand : FollowsAfter cursor (operand below) (tagOrGroup q)) :
    (query (below + 1) cursor).Follows cursor.column (alternatives q cursor) := by
  have hreader : query (below + 1) cursor = (negation (operand below) cursor).after t := by
    rw [query_succ]
    exact bind_of_done (optional_of_mismatch hx)
  have htextbook : ((negation (tagOrGroup q) cursor).after u).Like 0 (alternatives q cursor) :=
    (alternatives_of_mismatch hy).symm
  rw [hreader]
  refine Outcome.Follows.trans_like ?_ (htextbook.mono (Nat.zero_le _))
  cases hnot : (Terminal.keyword .not).strip? (cursor.after .space).rest with
  | none =>
    rw [negation_of_none hnot, negation_of_none hnot]
    refine .agrees (.mismatch rfl rfl le ?_ (alike.append (.refl _ _)))
    exact Nat.le_trans reached (Nat.le_max_left _ _)
  | some rest =>
    -- What is left of a failed operand counts here, so both must have failed in the same way.
    have hhead : cursor.rest.head? ≠ some '(' := by
      intro hhead
      obtain ⟨hafter, hmiss⟩ := strip?_not_of_opening (by decide) hhead
      rw [hafter, hmiss] at hnot
      cases hnot
    have hsame : tagOrGroup (query below) cursor = tagOrGroup q cursor := tagOrGroup_of_head hhead
    rw [hx, hy] at hsame
    cases hsame
    exact (negation_of_some hnot hoperand).after (.refl _ _)

/-! ## Queries -/

/-- One query follows the textbook's, if the queries and operands on all later places do. -/
theorem query_follows_step {depth : Nat}
    (hquery : FollowsAfter cursor (query below) (Textbook.query depth))
    (hoperand : FollowsAfter cursor (operand below) (tagOrGroup (Textbook.query depth))) :
    (query (below + 1) cursor).Follows cursor.column (Textbook.query (depth + 1) cursor) := by
  have htextbook := (Textbook.query_like depth cursor).symm.mono (Nat.zero_le cursor.column)
  refine Outcome.Follows.trans_like ?_ htextbook
  have hfirst := tagOrGroup_agrees hquery
  rcases hx : tagOrGroup (query below) cursor with ⟨replyx, t⟩
  rcases hy : tagOrGroup (Textbook.query depth) cursor with ⟨replyy, u⟩
  rw [hx, hy] at hfirst
  cases hfirst with
  | done hreply hreply' _ alike =>
    obtain rfl : replyx = _ := hreply
    obtain rfl : replyy = _ := hreply'
    exact query_of_done hx hy alike hquery
  | mismatch hreply hreply' le reached alike =>
    obtain rfl : replyx = _ := hreply
    obtain rfl : replyy = _ := hreply'
    exact query_of_mismatch hx hy le reached alike hoperand

/-- A query follows the textbook's, if the text has fewer characters than there are levels and the
textbook may go deep enough. -/
theorem query_follows {levels depth : Nat} (hlevels : cursor.rest.length < levels)
    (hdepth : cursor.rest.length < depth) :
    (query levels cursor).Follows cursor.column (Textbook.query depth cursor) := by
  induction hlength : cursor.rest.length using Nat.strongRecOn generalizing levels depth cursor with
  | ind length ih =>
  subst hlength
  obtain ⟨below, rfl⟩ : ∃ below, levels = below + 1 := ⟨levels - 1, by omega⟩
  obtain ⟨shallower, rfl⟩ : ∃ shallower, depth = shallower + 1 := ⟨depth - 1, by omega⟩
  refine query_follows_step (fun next hnext => ?_) fun next hnext => ?_
  · exact ih _ hnext (by omega) (by omega) rfl
  · obtain ⟨lower, rfl⟩ : ∃ lower, below = lower + 1 := ⟨below - 1, by omega⟩
    rw [operand_succ]
    refine .agrees (tagOrGroup_agrees fun later hlater => ?_)
    exact ih _ (Nat.lt_trans hlater hnext) (by omega) (by omega) rfl

theorem wholeQuery_agrees {limit depth : Nat} (hlimit : cursor.rest.length ≤ limit)
    (hdepth : cursor.rest.length < depth) :
    (wholeQuery limit cursor).Agrees cursor.column (Textbook.wholeQuery depth cursor) :=
  agrees_of_close strip?_endOfInput (query_follows (Nat.lt_succ_of_le hlimit) hdepth)

end Parser

/-! ## Results -/

namespace Textbook

variable {text : String}

theorem parse_of_done {e : Expr} {next : Cursor}
    (h : (wholeQuery (text.length + 1) (Cursor.start text)).reply = .done e next) :
    parse text = .ok e := by
  unfold parse
  dsimp only
  generalize wholeQuery (text.length + 1) (Cursor.start text) = outcome at h ⊢
  simp only [h]

theorem parse_of_mismatch
    (h : (wholeQuery (text.length + 1) (Cursor.start text)).reply = .mismatch) :
    parse text = .error
      (.ofTrace text.toList (wholeQuery (text.length + 1) (Cursor.start text)).trace) := by
  unfold parse
  dsimp only
  generalize wholeQuery (text.length + 1) (Cursor.start text) = outcome at h ⊢
  simp only [h]

end Textbook

namespace Grammar

/-- **The single pass.** Under a limit that no operand of the text can exceed, a grammar gives the
expression that the textbook gives, or the same rejection: at the same column, for the same expected
terminals and the same character found. The textbook itself never runs out of depth. -/
theorem parse_eq_textbook (g : Grammar) (text : String) (h : text.length ≤ g.maxDepth) :
    g.parse text = Textbook.parse text ∧
      ∀ column depth, Textbook.parse text ≠ .error (.tooDeep column depth) := by
  have hlength : (Cursor.start text).rest.length = text.length := String.length_toList
  have hlimit : (Cursor.start text).rest.length ≤ g.maxDepth := by omega
  have hdepth : (Cursor.start text).rest.length < text.length + 1 := by omega
  cases Parser.wholeQuery_agrees hlimit hdepth with
  | done hx hy =>
    rw [parse_of_done hx, Textbook.parse_of_done hy]
    exact ⟨rfl, nofun⟩
  | mismatch hx hy _ reached alike =>
    rw [parse_of_mismatch hx, Textbook.parse_of_mismatch hy,
      Rejection.ofTrace_congr alike reached]
    exact ⟨rfl, nofun⟩

/-- The textbook takes the chain back to its first operand. The explanation is about the end of the
text all the same. -/
theorem parse_eq_textbook_unclosed :
    (Grammar.mk 12).parse "s:a and (s:b" = Textbook.parse "s:a and (s:b" ∧
      (∀ column depth, Textbook.parse "s:a and (s:b" ≠ .error (.tooDeep column depth)) ∧
      Textbook.parse "s:a and (s:b" = .error (.unexpected 12 [.symbol .groupClose,
        .symbol .synonyms, .keyword (.operator .and), .keyword (.operator .or),
        .keyword (.operator .xor), .character .space, .character .word] none) := by
  obtain ⟨hsame, hdepth⟩ := parse_eq_textbook ⟨12⟩ "s:a and (s:b" (by decide)
  exact ⟨hsame, hdepth, hsame ▸ rfl⟩

end Grammar

end TagQuery
