import TagQuery.Proofs.Grammar
import TagQuery.Proofs.Parser.Reply

/-!
# Raising the limit

Levels are only ever counted down, and the text is not looked at once they have run out. So a reader
with fewer levels does what one with more does, trace included, until it gives up.

* `Outcome.Abridges x y`: `x` is `y` unless it is the notice that the query nests too deep.
* `Parser.query_abridges`: a query within fewer levels abridges the one within more.
* `Grammar.parse_eq_or_tooDeep`: under a lower limit a text has the same result or is rejected
  for this limit. `Grammar.parse_of_le`, `Grammar.parse_unexpected_of_le`: so what is accepted, or
  rejected for its syntax, stays so under a higher one.
-/

namespace TagQuery

variable {α β : Type}

/-- The first outcome is the second unless the levels ran out. -/
def Outcome.Abridges (x y : Outcome α) : Prop :=
  x = y ∨ ∃ column, x.reply = .tooDeep column

theorem Outcome.Abridges.after {x y : Outcome α} (h : x.Abridges y) (earlier : Trace) :
    (x.after earlier).Abridges (y.after earlier) := by
  rcases h with rfl | ⟨column, hx⟩
  · exact .inl rfl
  · exact .inr ⟨column, hx⟩

namespace Parser

/-- The first parser does what the second does unless its levels run out. -/
def Abridges (p q : Parser α) : Prop :=
  ∀ cursor, (p cursor).Abridges (q cursor)

theorem Abridges.refl (p : Parser α) : p.Abridges p :=
  fun _ => .inl rfl

theorem tooDeep_abridges (p : Parser α) : tooDeep.Abridges p :=
  fun _ => .inr ⟨_, rfl⟩

section Combinators

variable {p p' q q' : Parser α} {f f' : α → Parser β}

theorem Abridges.bind (hp : p.Abridges p') (hf : ∀ a, (f a).Abridges (f' a)) :
    (p >>= f).Abridges (p' >>= f') := by
  intro cursor
  rcases hp cursor with hp | ⟨column, hp⟩
  · show (Parser.bind p f cursor).Abridges (Parser.bind p' f' cursor)
    unfold Parser.bind
    rw [hp]
    rcases p' cursor with ⟨_ | _ | _, trace⟩
    · exact (hf _ _).after trace
    · exact .inl rfl
    · exact .inl rfl
  · exact .inr ⟨column, reply_bind_eq_tooDeep.mpr (.inl hp)⟩

theorem Abridges.orElse (hp : p.Abridges p') (hq : q.Abridges q') :
    (orElse p q).Abridges (orElse p' q') := by
  intro cursor
  rcases hp cursor with hp | ⟨column, hp⟩
  · unfold Parser.orElse
    rw [hp]
    rcases p' cursor with ⟨_ | _ | _, trace⟩
    · exact .inl rfl
    · exact (hq cursor).after trace
    · exact .inl rfl
  · exact .inr ⟨column, reply_orElse_eq_tooDeep.mpr (.inl hp)⟩

theorem Abridges.optional (hp : p.Abridges p') : (optional p).Abridges (optional p') := by
  intro cursor
  rcases hp cursor with hp | ⟨column, hp⟩
  · unfold Parser.optional
    rw [hp]
    exact .inl rfl
  · exact .inr ⟨column, reply_optional_eq_tooDeep.mpr hp⟩

end Combinators

/-! ## Operands and queries -/

theorem respectsText_abridges : RespectsText Parser Parser fun p q => p.Abridges q where
  pure _ := .refl _
  bind hp hf := hp.bind hf
  orElse hp hq := hp.orElse hq
  optional hp := hp.optional
  symbol _ := .refl _
  keyword _ := .refl _
  skip _ := .refl _
  run _ := .refl _

theorem query_abridges {fewer more : Nat} (h : fewer ≤ more) :
    (query fewer).Abridges (query more) := by
  refine (query_induction (P := fun fewer p => ∀ {more}, fewer ≤ more → p.Abridges (query more))
    (Q := fun fewer p => ∀ {more}, fewer ≤ more → p.Abridges (operand more)) ?_ ?_ ?_ ?_ fewer).1 h
  · exact fun _ => tooDeep_abridges _
  · intro below hquery hoperand more h
    obtain ⟨more, rfl⟩ : ∃ lower, more = lower + 1 := ⟨more - 1, by omega⟩
    have hle : below ≤ more := Nat.le_of_succ_le_succ h
    rw [query_succ]
    refine (respectsText_abridges.tagOrGroup (hquery hle)).optional.bind fun first => ?_
    cases first with
    | some left => exact respectsText_abridges.chain left (hquery hle)
    | none => exact respectsText_abridges.negation (hoperand hle)
  · exact fun _ => tooDeep_abridges _
  · intro below hquery more h
    obtain ⟨more, rfl⟩ : ∃ lower, more = lower + 1 := ⟨more - 1, by omega⟩
    rw [operand_succ]
    exact respectsText_abridges.tagOrGroup (hquery (Nat.le_of_succ_le_succ h))

theorem wholeQuery_abridges {low high : Nat} (h : low ≤ high) :
    (wholeQuery low).Abridges (wholeQuery high) :=
  (query_abridges (Nat.succ_le_succ h)).bind fun _ => .refl _

end Parser

namespace Grammar

/-- Under a lower limit a text has the same result or is rejected for this limit. -/
theorem parse_eq_or_tooDeep {g high : Grammar} (h : g.maxDepth ≤ high.maxDepth) (text : String) :
    g.parse text = high.parse text ∨
      ∃ column, g.parse text = .error (.tooDeep column g.maxDepth) := by
  rcases Parser.wholeQuery_abridges h (Cursor.start text) with hsame | ⟨column, hdeep⟩
  · cases hreply : (Parser.wholeQuery g.maxDepth (Cursor.start text)).reply with
    | tooDeep column => exact .inr ⟨column, parse_of_tooDeep hreply⟩
    | done e next =>
      refine .inl ((parse_of_done hreply).trans ?_)
      rw [hsame] at hreply
      exact (parse_of_done hreply).symm
    | mismatch =>
      refine .inl ((parse_of_mismatch hreply).trans ?_)
      rw [hsame] at hreply ⊢
      exact (parse_of_mismatch hreply).symm
  · exact .inr ⟨column, parse_of_tooDeep hdeep⟩

/-- Under a higher limit a text that is accepted stands for the same expression. -/
theorem parse_of_le {low high : Grammar} {text : String} {e : Expr}
    (hle : low.maxDepth ≤ high.maxDepth) (h : low.parse text = .ok e) : high.parse text = .ok e := by
  rcases parse_eq_or_tooDeep hle text with hsame | ⟨column, hdeep⟩
  · rw [← hsame]
    exact h
  · rw [hdeep] at h
    cases h

/-- Under a higher limit a text that is rejected for its syntax is so for the same reason. -/
theorem parse_unexpected_of_le {low high : Grammar} {text : String} {column : Nat}
    {expected : List Terminal} {found : Option Char} (hle : low.maxDepth ≤ high.maxDepth)
    (h : low.parse text = .error (.unexpected column expected found)) :
    high.parse text = .error (.unexpected column expected found) := by
  rcases parse_eq_or_tooDeep hle text with hsame | ⟨deep, hdeep⟩
  · rw [← hsame]
    exact h
  · rw [h] at hdeep
    cases hdeep

end Grammar

end TagQuery
