import TagQuery.Proofs.Language.Progress
import TagQuery.Proofs.Textbook.Follows
import TagQuery.Proofs.Textbook.Rules

/-!
# The parts of a query in a single pass

The reader takes the operator after an operand for good, and looks for a negation only where no
operand stands. Each part is compared with what the textbook does from the same place, if the
queries inside it and after it follow the textbook's.

* `tagOrGroup_agrees`: an operand agrees with the textbook's operand.
* `chain_follows`: what the reader does after the first operand follows the textbook's alternatives
  for the operators, with the operand alone as the last resort.
* `negation_of_some`: after the word `NOT` a negation follows the textbook's.
  `negation_like_of_done`: where an operand stands, the textbook's negation does not matter.
-/

namespace TagQuery

open Textbook (byOperator link links)

namespace Parser

variable {α : Type} {inner inner' p q : Parser Expr} {cursor next : Cursor} {rest : List Char}
  {left : Expr}

/-! ## Operands -/

theorem strip?_groupClose (h : ¬Closes rest) :
    (Terminal.symbol .groupClose).strip? rest = none := by
  refine Terminal.strip?_symbol_of_head fun hhead => h fun c hc => ?_
  rw [hhead] at hc
  cases hc
  rfl

theorem strip?_endOfInput (h : ¬Closes rest) : Terminal.endOfInput.strip? rest = none := by
  cases rest with
  | nil => exact absurd (fun _ hc => nomatch hc) h
  | cons c rest => rfl

/-- An operand agrees with the textbook's, if the queries on all later places follow the
textbook's. -/
theorem tagOrGroup_agrees (hinner : FollowsAfter cursor inner inner') :
    (tagOrGroup inner cursor).Agrees cursor.column (tagOrGroup inner' cursor) := by
  have hforward : Forward (tag >>= fun t => Pure.pure (Expr.tag t)) :=
    (consumes_tag.bind fun _ => forward_pure _).forward
  have hflat : Flat (tag >>= fun t => Pure.pure (Expr.tag t)) := flat_tag.bind fun _ => flat_pure _
  rw [tagOrGroup_eq, tagOrGroup_eq]
  rcases htag : (tag >>= fun t => Pure.pure (Expr.tag t)) cursor with ⟨⟨e, next⟩ | _ | column, t⟩
  · rw [orElse_of_done htag, orElse_of_done htag]
    exact .refl_of_done rfl (hforward cursor e next (by rw [htag])).column_le
  · rw [orElse_of_mismatch htag, orElse_of_mismatch htag]
    refine Outcome.Agrees.after ?_ (.refl _ _)
    rw [group_eq, group_eq]
    cases hopen : (Terminal.symbol .groupOpen).strip? cursor.rest with
    | none =>
      have hsymbol : symbol .groupOpen cursor = _ := terminal_of_none hopen
      rw [bind_of_mismatch hsymbol, bind_of_mismatch hsymbol]
      exact .refl_of_mismatch rfl (Nat.le_refl _)
    | some rest =>
      have hsymbol : symbol .groupOpen cursor = _ := terminal_of_some hopen
      obtain ⟨hreaches, hlt⟩ :=
        consumes_symbol .groupOpen cursor () _ (congrArg Outcome.reply hsymbol)
      rw [bind_of_done hsymbol, bind_of_done hsymbol]
      refine Outcome.Agrees.after (Outcome.Agrees.mono ?_ hreaches.column_le) (.refl _ _)
      exact agrees_of_close strip?_groupClose (hinner _ (hreaches.length_lt hlt))
  · exact absurd (congrArg Outcome.reply htag) (hflat cursor column)

/-- Without a parenthesis in front an operand is a tag, whatever a group may hold. -/
theorem tagOrGroup_of_head (h : cursor.rest.head? ≠ some '(') :
    tagOrGroup inner cursor = tagOrGroup inner' cursor := by
  have hmiss : (Terminal.symbol .groupOpen).strip? cursor.rest = none :=
    Terminal.strip?_symbol_of_head h
  have hsymbol : symbol .groupOpen cursor = _ := terminal_of_none hmiss
  have hgroup : group inner cursor = group inner' cursor := by
    rw [group_eq, group_eq, bind_of_mismatch hsymbol, bind_of_mismatch hsymbol]
  rw [tagOrGroup_eq, tagOrGroup_eq]
  unfold orElse
  rw [hgroup]

/-! ## Operators -/

/-- Where no operator stands, parsers that look for their words miss all three. -/
theorem byOperator_of_none {f : Operator → Parser α}
    (h : ∀ op, f op cursor = ⟨.mismatch, .missed cursor.column (.keyword (.operator op))⟩) :
    byOperator f cursor = ⟨.mismatch, .missed cursor.column (.keyword (.operator .and)) ++
      (.missed cursor.column (.keyword (.operator .or)) ++
        .missed cursor.column (.keyword (.operator .xor)))⟩ := by
  unfold byOperator
  rw [orElse_of_mismatch (h .and), orElse_of_mismatch (h .or), h .xor]
  rfl

/-- Where one operator stands, the others do not matter. -/
theorem byOperator_like {f : Operator → Parser α} {op : Operator} {start : Nat}
    (h : ∀ other, other ≠ op → (f other cursor).Like start ⟨.mismatch, .empty⟩) :
    (byOperator f cursor).Like start (f op cursor) := by
  unfold byOperator
  cases op with
  | and =>
    exact orElse_miss_like ((miss_orElse_like (h .or (by decide))).trans (h .xor (by decide)))
  | or =>
    exact (miss_orElse_like (h .and (by decide))).trans (orElse_miss_like (h .xor (by decide)))
  | xor =>
    exact (miss_orElse_like (h .and (by decide))).trans (miss_orElse_like (h .or (by decide)))

theorem byOperator_of_some {f : Operator → Unit → Parser α} {op : Operator}
    (h : (Terminal.keyword (.operator op)).strip? cursor.rest = some rest) :
    (byOperator (fun op => keyword (.operator op) >>= f op) cursor).Like (cursor.column + 1)
      (f op () ⟨cursor.column + (Terminal.keyword (.operator op)).width, rest⟩) := by
  have hothers : ∀ other, other ≠ op → ((keyword (.operator other) >>= f other) cursor).Like
      (cursor.column + 1) ⟨.mismatch, .empty⟩ := by
    intro other hne
    have hmiss : keyword (.operator other) cursor = _ :=
      terminal_of_none (Terminal.strip?_operator_of_ne h hne)
    rw [bind_of_mismatch hmiss]
    exact ⟨rfl, Trace.missed_alike_empty _ (Nat.lt_succ_self _)⟩
  refine (byOperator_like hothers).trans ?_
  have hword : keyword (.operator op) cursor = _ := terminal_of_some h
  rw [bind_of_done hword]
  exact (Outcome.Like.refl _ _).after_empty (.refl _ _)

/-! ## Chains -/

theorem gap_apply (cursor : Cursor) : gap cursor =
    ⟨.done () (cursor.after .space), .missed (cursor.after .space).column (.character .space)⟩ :=
  rfl

/-- Without an operator, a chain ends with its first operand. -/
theorem chain_of_none
    (h : ∀ op, (Terminal.keyword (.operator op)).strip? (cursor.after .space).rest = none) :
    (chain left p cursor).Follows cursor.column
      (orElse (links left q) (Pure.pure left) cursor) := by
  obtain ⟨t, hwords, hlink⟩ : ∃ t, byOperator operatorWord (cursor.after .space) = ⟨.mismatch, t⟩ ∧
      byOperator (link left q) (cursor.after .space) = ⟨.mismatch, t⟩ :=
    ⟨_, byOperator_of_none fun op => bind_of_mismatch (terminal_of_none (h op)),
      byOperator_of_none fun op => bind_of_mismatch (terminal_of_none (h op))⟩
  have hoperator : operator cursor = ⟨.mismatch, _⟩ :=
    (bind_of_done (gap_apply cursor)).trans (congrArg (Outcome.after · _) (bind_of_mismatch hwords))
  have hlinks : links left q cursor = ⟨.mismatch, _⟩ :=
    (bind_of_done (gap_apply cursor)).trans (congrArg (Outcome.after · _) hlink)
  rw [chain_eq, bind_of_done (optional_of_mismatch hoperator), orElse_of_mismatch hlinks]
  exact .agrees (.refl_of_done rfl (Nat.le_refl _))

/-- Where an operator stands, the reader and the textbook go on from the same place after it, and
what they missed before this place does not matter any more. -/
theorem operator_of_some {op : Operator}
    (h : (Terminal.keyword (.operator op)).strip? (cursor.after .space).rest = some rest)
    (left : Expr) (q : Parser Expr) :
    ∃ last, cursor.column < last.column ∧
      (operator cursor).Like last.column
        ⟨.done op last, .missed last.column (.character .space)⟩ ∧
      (links left q cursor).Like last.column
        (((q >>= fun right => Pure.pure (.binary op left right)) last).after
          (.missed last.column (.character .space))) := by
  have hle := (cursor.reaches_after .space).column_le
  have hgap := gap_apply cursor
  generalize cursor.after .space = middle at *
  have hword : keyword (.operator op) middle = _ := terminal_of_some h
  have hwords : (byOperator operatorWord middle).Like (middle.column + 1) _ := byOperator_of_some h
  have hlink : (byOperator (link left q) middle).Like (middle.column + 1) _ := byOperator_of_some h
  generalize Cursor.mk (middle.column + (Terminal.keyword (.operator op)).width) rest = word at *
  obtain ⟨-, hlt⟩ := consumes_keyword (.operator op) middle () word (by rw [hword])
  have hafter := gap_apply word
  have hlast := Nat.lt_of_lt_of_le hlt (word.reaches_after .space).column_le
  generalize word.after .space = last at *
  have hmissed := Trace.missed_alike_empty (.character .space) hlast
  refine ⟨last, by omega, ?_, ?_⟩
  · have hoperator : operator cursor = _ := bind_of_done hgap
    rw [hoperator]
    refine ((bind_done_like (hwords.mono hlast)).trans ?_).after_empty hmissed
    rw [bind_of_done hafter]
    refine ⟨rfl, fun _ _ _ => ?_⟩
    simp
  · have hlinks : links left q cursor = _ := bind_of_done hgap
    rw [hlinks]
    refine Outcome.Like.after_empty ?_ hmissed
    rw [bind_of_done hafter] at hlink
    exact hlink.mono hlast

theorem chain_of_some {op : Operator}
    (h : (Terminal.keyword (.operator op)).strip? (cursor.after .space).rest = some rest)
    (hnext : FollowsAfter cursor p q) :
    (chain left p cursor).Follows cursor.column
      (orElse (links left q) (Pure.pure left) cursor) := by
  obtain ⟨last, hlt, hoperator, hlinks⟩ := operator_of_some h left q
  rcases hop : operator cursor with ⟨reply, t⟩
  rw [hop] at hoperator
  obtain ⟨rfl, halike⟩ := hoperator
  have hreaches := consumes_operator.forward cursor op last (by rw [hop])
  have hopen : ¬Closes cursor.rest := by
    intro hcloses
    have hmiss := misses_operator hcloses cursor.column
    rw [hop] at hmiss
    cases hmiss
  have hright := follows_map (Expr.binary op left) (hnext last (hreaches.length_lt hlt))
  have hchain : chain left p cursor = _ := bind_of_done (optional_of_done hop)
  rw [hchain]
  refine Outcome.Follows.mono ?_ hreaches.column_le
  exact follows_orElse_pure ((hright.after halike).trans_like hlinks.symm) hopen hlt

/-- A chain follows what the textbook reads after the first operand: its three alternatives for the
operators, and the operand alone if they miss. -/
theorem chain_follows (left : Expr) (hnext : FollowsAfter cursor p q) :
    (chain left p cursor).Follows cursor.column
      (orElse (links left q) (Pure.pure left) cursor) := by
  by_cases h : ∃ op rest, (Terminal.keyword (.operator op)).strip? (cursor.after .space).rest =
      some rest
  · obtain ⟨op, rest, hstrip⟩ := h
    exact chain_of_some hstrip hnext
  · refine chain_of_none fun op => Option.eq_none_iff_forall_ne_some.mpr fun rest hstrip => h ?_
    exact ⟨op, rest, hstrip⟩

/-! ## Negations -/

/-- Where an operand may begin there is neither a gap nor the word `NOT`. -/
theorem strip?_not_of_opening {c : Char} (hc : c ∈ operandOpenings)
    (hhead : cursor.rest.head? = some c) :
    cursor.after .space = cursor ∧ (Terminal.keyword .not).strip? cursor.rest = none := by
  constructor
  · refine after_of_head fun d hd hspace => ?_
    rw [hhead] at hd
    cases hd
    rw [show c = ' ' from by simpa [CharClass.contains] using hspace] at hc
    exact absurd hc (by decide)
  · refine Terminal.strip?_keyword_of_head fun hupper => ?_
    rw [hhead] at hupper
    exact not_mem_of_toUpper hupper (List.mem_cons_of_mem _ (List.mem_append_left _ hc))

theorem negation_of_none (h : (Terminal.keyword .not).strip? (cursor.after .space).rest = none)
    (p : Parser Expr) :
    negation p cursor = ⟨.mismatch, .missed (cursor.after .space).column (.character .space) ++
      .missed (cursor.after .space).column (.keyword .not)⟩ :=
  (bind_of_done (gap_apply cursor)).trans
    (congrArg (Outcome.after · _) (bind_of_mismatch (terminal_of_none h)))

/-- After the word `NOT` a negation follows the textbook's, if the operand does. -/
theorem negation_of_some
    (h : (Terminal.keyword .not).strip? (cursor.after .space).rest = some rest)
    (hnext : FollowsAfter cursor p q) :
    (negation p cursor).Follows cursor.column (negation q cursor) := by
  have hbefore := cursor.reaches_after .space
  have hword : keyword .not (cursor.after .space) = _ := terminal_of_some h
  obtain ⟨hover, hlt⟩ := consumes_keyword .not _ () _ (congrArg Outcome.reply hword)
  have hafter := Cursor.reaches_after
    ⟨(cursor.after .space).column + (Terminal.keyword .not).width, rest⟩ .space
  have hreaches := (hbefore.trans hover).trans hafter
  have hcolumn := Nat.lt_of_le_of_lt hbefore.column_le (Nat.lt_of_lt_of_le hlt hafter.column_le)
  have hoperand := follows_map Expr.negation (hnext _ (hreaches.length_lt hcolumn))
  have hnegation : ∀ r, negation r cursor = _ := fun r => bind_of_done (gap_apply cursor)
  rw [hnegation, hnegation, bind_of_done hword, bind_of_done hword, bind_of_done (gap_apply _),
    bind_of_done (gap_apply _)]
  refine Outcome.Follows.mono ?_ hreaches.column_le
  exact ((hoperand.after (.refl _ _)).after (.refl _ _)).after (.refl _ _)

/-- Where an operand is read, the textbook misses a negation at the first character. -/
theorem negation_like_of_done {e : Expr} (h : (tagOrGroup inner cursor).reply = .done e next)
    (p : Parser Expr) :
    (negation p cursor).Like (cursor.column + 1) ⟨.mismatch, .empty⟩ := by
  obtain ⟨c, hc, hhead⟩ : ∃ c ∈ operandOpenings, cursor.rest.head? = some c := by
    refine Classical.byContradiction fun hno => ?_
    have hmiss : Misses (tagOrGroup inner) cursor.rest := misses_tagOrGroup fun c hc hopens =>
      hno ⟨c, hopens, hc⟩
    have hmismatch := hmiss cursor.column
    rw [h] at hmismatch
    cases hmismatch
  obtain ⟨hafter, hnot⟩ := strip?_not_of_opening hc hhead
  rw [← hafter] at hnot
  rw [negation_of_none hnot, hafter]
  have hmissed : ∀ terminal,
      (Trace.missed cursor.column terminal).Alike (cursor.column + 1) .empty := fun terminal =>
    Trace.missed_alike_empty terminal (Nat.lt_succ_self _)
  exact ⟨rfl, (hmissed _).empty_append (hmissed _)⟩

end Parser

end TagQuery
