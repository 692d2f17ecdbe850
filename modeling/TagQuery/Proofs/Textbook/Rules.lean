import TagQuery.Language.Textbook
import TagQuery.Proofs.Parser.Alike

/-!
# The textbook's rules and the reader's

* The textbook looks at one character at a time, the reader at a run. Both stop at the same place
  and miss the class there (`Textbook.star_like`, `Textbook.plus_like`), so the rules for tags agree.
* Three of the five alternatives for a query begin with an operand and a gap. `alternatives` reads
  these once for all three and comes to the same (`Textbook.query_like`); `links` is what then may
  follow.
-/

namespace TagQuery.Textbook

open TagQuery.Parser (terminal orElse optional tagOrGroup negation)

/-! ## Repetition -/

variable {α β : Type} {cls : CharClass} {cursor : Cursor}

private theorem head_cases (cls : CharClass) (text : List Char) :
    (∀ c ∈ text.head?, ¬cls.contains c) ∨ ∃ c rest, cls.contains c ∧ text = c :: rest := by
  cases text with
  | nil => exact .inl nofun
  | cons c rest =>
    by_cases hc : cls.contains c
    · exact .inr ⟨c, rest, hc, rfl⟩
    · exact .inl fun d hd => Option.some.inj hd ▸ hc

theorem character_of_contains {c : Char} (hc : cls.contains c) (column : Nat) (rest : List Char) :
    character cls ⟨column, c :: rest⟩ = ⟨.done c ⟨column + 1, rest⟩, .empty⟩ :=
  if_pos hc

theorem character_of_head (h : ∀ c ∈ cursor.rest.head?, ¬cls.contains c) :
    character cls cursor = ⟨.mismatch, .missed cursor.column (.character cls)⟩ := by
  obtain ⟨column, rest⟩ := cursor
  cases rest with
  | nil => rfl
  | cons c rest => exact if_neg (h c rfl)

/-- A repetition that may go on for long enough takes the run of the class, and misses the class
where the run ends. -/
theorem repeated_like {count : Nat} (h : cursor.rest.length < count) :
    (repeated cls count cursor).Like 0
      ⟨.done (cursor.rest.takeWhile cls.contains) (cursor.after cls),
        .missed (cursor.after cls).column (.character cls)⟩ := by
  induction count generalizing cursor with
  | zero => exact absurd h (Nat.not_lt_zero _)
  | succ count ih =>
    unfold repeated
    rcases head_cases cls cursor.rest with hhead | ⟨c, rest, hc, hrest⟩
    · rw [Parser.bind_of_done (Parser.optional_of_mismatch (character_of_head hhead)),
        Parser.after_of_head hhead, Parser.takeWhile_of_head hhead]
      refine ⟨rfl, fun column terminal _ => ?_⟩
      simp
    · obtain ⟨column, _⟩ := cursor
      subst hrest
      have hgo := Parser.optional_of_done (character_of_contains hc column rest)
      rw [Parser.bind_of_done hgo, List.takeWhile_cons_of_pos hc, Parser.after_cons hc]
      have hrun : (repeated cls count ⟨column + 1, rest⟩).Like 0 _ := ih (Nat.lt_of_succ_lt_succ h)
      refine ((Parser.bind_done_like hrun).after (.refl 0 .empty)).trans ⟨rfl, fun _ _ _ => ?_⟩
      simp

theorem star_like (cls : CharClass) (cursor : Cursor) :
    (star cls cursor).Like 0
      ⟨.done (cursor.rest.takeWhile cls.contains) (cursor.after cls),
        .missed (cursor.after cls).column (.character cls)⟩ :=
  repeated_like (Nat.lt_succ_self _)

theorem plus_like (cls : CharClass) : (plus cls).Like (Parser.run cls) := by
  intro cursor
  unfold plus Parser.run
  rcases head_cases cls cursor.rest with hhead | ⟨c, rest, hc, hrest⟩
  · rw [Parser.bind_of_mismatch (character_of_head hhead), Parser.after_of_head hhead,
      Parser.takeWhile_of_head hhead]
    exact .refl _ _
  · obtain ⟨column, _⟩ := cursor
    subst hrest
    have hrun := star_like cls ⟨column + 1, rest⟩
    rw [Parser.bind_of_done (character_of_contains hc column rest), Parser.after_cons hc]
    refine ((Parser.bind_done_like hrun).after (.refl 0 .empty)).trans ?_
    simp only [List.takeWhile_cons_of_pos hc, List.isEmpty_cons]
    refine ⟨rfl, fun _ _ _ => ?_⟩
    simp

theorem gap_like : gap.Like Parser.gap := by
  intro cursor
  refine (Parser.bind_done_like (star_like .space cursor)).trans ⟨rfl, fun _ _ _ => ?_⟩
  simp [Parser.gap_eq, Parser.skip]

/-! ## Tags -/

theorem value_like : value.Like Parser.value :=
  (plus_like .word).orElse <| (Parser.Like.refl _).bind fun _ =>
    (plus_like .unquoted).bind fun _ => .refl _

theorem tag_like : tag.Like Parser.tag := by
  have hsemantic : semanticTag.Like (Parser.tagOfKind .semantic) :=
    (Parser.Like.refl _).bind fun _ => value_like.bind fun _ => .refl _
  have hkeyword : keywordTag.Like (Parser.tagOfKind .keyword) :=
    (Parser.Like.refl _).bind fun _ => value_like.bind fun _ => .refl _
  have hcomment : commentTag.Like (Parser.tagOfKind .comment) :=
    (Parser.Like.refl _).bind fun _ => value_like.bind fun _ => .refl _
  have hregex : regexTag.Like (Parser.tagOfKind .regex) :=
    (Parser.Like.refl _).bind fun _ => (plus_like .pattern).bind fun _ => .refl _
  exact hsemantic.orElse (hkeyword.orElse (hcomment.orElse hregex))

/-! ## Operands and queries -/

theorem operand_like (q : Parser Expr) : (operand q).Like (tagOrGroup q) :=
  (tag_like.bind fun _ => .refl _).orElse (.refl _)

theorem negated_like (q : Parser Expr) : (negated q).Like (negation (tagOrGroup q)) :=
  gap_like.bind fun _ => (Parser.Like.refl _).bind fun _ => gap_like.bind fun _ =>
    (operand_like q).bind fun _ => .refl _

/-- The first of three parsers, one for each operator, that does not miss. -/
def byOperator (f : Operator → Parser α) : Parser α :=
  orElse (f .and) (orElse (f .or) (f .xor))

/-- What the alternative for an operator reads from its word on. -/
def link (left : Expr) (q : Parser Expr) (op : Operator) : Parser Expr := do
  Parser.keyword (.operator op)
  Parser.gap
  return .binary op left (← q)

/-- What the alternatives for the operators read after their first operand. -/
def links (left : Expr) (q : Parser Expr) : Parser Expr := do
  Parser.gap
  byOperator (link left q)

theorem byOperator_bind_like (p : Parser α) (f : Operator → α → Parser β) :
    (byOperator fun op => p >>= f op).Like (p >>= fun a => byOperator fun op => f op a) := by
  have hlast := Parser.orElse_bind_like p (f .or) (f .xor)
  exact ((Parser.Like.refl _).orElse hlast).trans (Parser.orElse_bind_like _ _ _)

theorem joined_like (op : Operator) (q : Parser Expr) :
    (joined op q).Like (tagOrGroup q >>= fun left => Parser.gap >>= fun _ => link left q op) :=
  (operand_like q).bind fun _ => gap_like.bind fun _ => (Parser.Like.refl _).bind fun _ =>
    gap_like.bind fun _ => .refl _

/-- The five alternatives with their common beginnings read once. -/
def alternatives (q : Parser Expr) : Parser Expr :=
  orElse (tagOrGroup q >>= fun left => links left q)
    (orElse (negation (tagOrGroup q)) (tagOrGroup q))

theorem query_like (depth : Nat) : (query (depth + 1)).Like (alternatives (query depth)) := by
  generalize hq : query depth = q
  have hlinks : (byOperator fun op => joined op q).Like
      (tagOrGroup q >>= fun left => links left q) := by
    have hjoined := (joined_like .and q).orElse ((joined_like .or q).orElse (joined_like .xor q))
    have hoperand := byOperator_bind_like (tagOrGroup q) fun op left =>
      Parser.gap >>= fun _ => link left q op
    refine (hjoined.trans hoperand).trans ((Parser.Like.refl _).bind fun left => ?_)
    exact byOperator_bind_like Parser.gap fun op _ => link left q op
  unfold query
  rw [hq]
  refine ((Parser.Like.refl _).orElse (Parser.orElse_assoc_like _ _ _)).trans ?_
  refine (Parser.orElse_assoc_like _ _ _).trans ?_
  exact hlinks.orElse ((negated_like q).orElse (operand_like q))

end TagQuery.Textbook
