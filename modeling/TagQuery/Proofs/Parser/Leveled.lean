import TagQuery.Proofs.Parser.Trace
import TagQuery.Recorder

/-!
# Recorded parsers that keep levels below columns

* `Recorded.Leveled limit level p`: the parser is put together by the combinators in such a way that
  it may begin at every column from `level` on. An act on a level is marked where the column is
  known to be no lower, and levels only run out at an operand on level `limit + 1`.
* `Leveled.within`: no step lies behind the end of the text, and none on a level higher than its
  column.
* `Leveled.lookFor_of_missed`, `Leveled.operand_of_tooDeep`: what the outcome tells of, a missed
  terminal or an operand below the limit, is on record.
-/

namespace TagQuery

/-- A step that fits the text from a cursor on. -/
structure Step.Within (step : Step) (cursor : Cursor) : Prop where
  level_le : step.act.level ≤ step.column
  column_le : step.column ≤ cursor.column + cursor.rest.length

theorem Step.Within.of_reaches {step : Step} {cursor next : Cursor} (h : step.Within next)
    (hreaches : cursor.Reaches next) : step.Within cursor :=
  ⟨h.level_le, Nat.le_trans h.column_le (Nat.le_of_eq hreaches.total)⟩

namespace Recorded

variable {α β : Type} {p q : Recorded α} {f : α → Recorded β} {cursor : Cursor} {step : Step}
  {limit level : Nat}

/-! ## Steps of the combinators -/

theorem mem_steps_bind : step ∈ (p >>= f).steps cursor ↔
    step ∈ p.steps cursor ∨
      ∃ a next, (p.parser cursor).reply = .done a next ∧ step ∈ (f a).steps next := by
  show step ∈ p.steps cursor ++ _ ↔ _
  rw [List.mem_append]
  rcases (p.parser cursor).reply with ⟨a, next⟩ | _ | _ <;> simp [and_assoc]

theorem mem_steps_orElse : step ∈ (orElse p q).steps cursor ↔
    step ∈ p.steps cursor ∨ (p.parser cursor).reply = .mismatch ∧ step ∈ q.steps cursor := by
  show step ∈ p.steps cursor ++ _ ↔ _
  rw [List.mem_append]
  rcases (p.parser cursor).reply with ⟨a, next⟩ | _ | _ <;> simp

theorem mem_stepsThrough {cls : CharClass} : step ∈ stepsThrough cls cursor ↔
    step.act = .lookFor (.character cls) ∧ cursor.column ≤ step.column ∧
      step.column ≤ (cursor.after cls).column := by
  obtain ⟨column, act⟩ := step
  simp only [stepsThrough, List.mem_map, List.mem_range'_1, Cursor.after, Step.mk.injEq]
  constructor
  · rintro ⟨_, ⟨hle, hlt⟩, rfl, rfl⟩
    exact ⟨rfl, hle, by omega⟩
  · rintro ⟨rfl, hle, hend⟩
    exact ⟨column, ⟨hle, by omega⟩, rfl, rfl⟩

theorem within_stepsThrough {cls : CharClass} (h : step ∈ stepsThrough cls cursor) :
    step.Within cursor := by
  obtain ⟨hact, -, hend⟩ := mem_stepsThrough.mp h
  have htotal := (cursor.reaches_after cls).total
  constructor
  · rw [hact]
    exact Nat.zero_le _
  · omega

theorem lookFor_mem_stepsThrough (cls : CharClass) (cursor : Cursor) :
    ⟨(cursor.after cls).column, .lookFor (.character cls)⟩ ∈ stepsThrough cls cursor :=
  mem_stepsThrough.mpr ⟨rfl, (cursor.reaches_after cls).column_le, Nat.le_refl _⟩

/-! ## Levels and columns -/

/-- Put together by the combinators, with acts on levels that the column has reached. -/
inductive Leveled (limit : Nat) : {α : Type} → Nat → Recorded α → Prop where
  | pure {α : Type} {level : Nat} (a : α) : Leveled limit level (Pure.pure a : Recorded α)
  /-- The second part may begin at every column to which the value of the first part leads. -/
  | bind {α β : Type} {level : Nat} {p : Recorded α} {f : α → Recorded β} (after : α → Nat) :
      Leveled limit level p →
      (∀ cursor a next, level ≤ cursor.column → (p.parser cursor).reply = .done a next →
        after a ≤ next.column) →
      (∀ a, Leveled limit (after a) (f a)) → Leveled limit level (p >>= f)
  | orElse {α : Type} {level : Nat} {p q : Recorded α} :
      Leveled limit level p → Leveled limit level q → Leveled limit level (orElse p q)
  | optional {α : Type} {level : Nat} {p : Recorded α} :
      Leveled limit level p → Leveled limit level (optional p)
  | terminal {level : Nat} (t : Terminal) : Leveled limit level (terminal t)
  | skip {level : Nat} (cls : CharClass) : Leveled limit level (skip cls)
  | run {level : Nat} (cls : CharClass) : Leveled limit level (run cls)
  | marked {α : Type} {level : Nat} {act : Act} {p : Recorded α} :
      act.level ≤ level → Leveled limit level p → Leveled limit level (marked act p)
  | tooDeep {α : Type} {level : Nat} (reached : limit + 1 ≤ level) :
      Leveled limit level (marked (.operand (limit + 1)) tooDeep : Recorded α)

namespace Leveled

theorem forward (hp : Leveled limit level p) : p.parser.Forward := by
  induction hp with
  | pure a => exact Parser.forward_pure a
  | bind _ _ _ _ ihp ihf => exact ihp.bind ihf
  | orElse _ _ ihp ihq =>
    intro cursor a next h
    rcases Parser.reply_orElse_eq_done.mp h with h | ⟨-, h⟩
    · exact ihp cursor a next h
    · exact ihq cursor a next h
  | optional _ ihp => exact ihp.optional
  | terminal t => exact Parser.forward_terminal t
  | skip cls => exact Parser.forward_skip cls
  | run cls => exact Parser.forward_run cls
  | marked _ _ ihp => exact ihp
  | tooDeep => exact fun _ _ _ => nofun

theorem bind_forward (hp : Leveled limit level p) (hf : ∀ a, Leveled limit level (f a)) :
    Leveled limit level (p >>= f) :=
  .bind (fun _ => level) hp
    (fun cursor a next hle h => Nat.le_trans hle (hp.forward cursor a next h).column_le) hf

/-- A character on the way makes room for the next level. -/
theorem bind_consumes (hp : Leveled limit level p) (hconsumes : p.parser.Consumes)
    (hf : ∀ a, Leveled limit (level + 1) (f a)) : Leveled limit level (p >>= f) :=
  .bind (fun _ => level + 1) hp
    (fun cursor a next hle h => Nat.lt_of_le_of_lt hle (hconsumes cursor a next h).2) hf

/-- The same, if the part may be missing. -/
theorem bind_optional {f : Option α → Recorded β} (hp : Leveled limit level p)
    (hconsumes : p.parser.Consumes) (hsome : ∀ a, Leveled limit (level + 1) (f (some a)))
    (hnone : Leveled limit level (f none)) : Leveled limit level (Recorded.optional p >>= f) := by
  refine .bind (fun found => found.elim level fun _ => level + 1) hp.optional ?_ ?_
  · intro cursor found next hle h
    rcases Parser.reply_optional_eq_done.mp h with ⟨a, ha, rfl⟩ | ⟨-, rfl, rfl⟩
    · exact Nat.lt_of_le_of_lt hle (hconsumes cursor a next ha).2
    · exact hle
  · rintro (_ | a)
    · exact hnone
    · exact hsome a

/-! ## What is on record -/

/-- No step takes place behind the end of the text, or on a level higher than its column. -/
theorem within (hp : Leveled limit level p) (hlevel : level ≤ cursor.column)
    (h : step ∈ p.steps cursor) : step.Within cursor := by
  induction hp generalizing cursor with
  | pure a => cases h
  | bind after hp hafter _ ihp ihf =>
    rcases mem_steps_bind.mp h with h | ⟨a, next, ha, h⟩
    · exact ihp hlevel h
    · exact (ihf a (hafter cursor a next hlevel ha) h).of_reaches (hp.forward cursor a next ha)
  | orElse _ _ ihp ihq =>
    rcases mem_steps_orElse.mp h with h | ⟨-, h⟩
    · exact ihp hlevel h
    · exact ihq hlevel h
  | optional _ ihp => exact ihp hlevel h
  | terminal t =>
    obtain rfl := List.mem_singleton.mp h
    exact ⟨Nat.zero_le _, Nat.le_add_right _ _⟩
  | skip cls => exact within_stepsThrough h
  | run cls => exact within_stepsThrough h
  | marked hact _ ihp =>
    rcases List.mem_cons.mp h with rfl | h
    · exact ⟨Nat.le_trans hact hlevel, Nat.le_add_right _ _⟩
    · exact ihp hlevel h
  | tooDeep hreached =>
    obtain rfl := List.mem_singleton.mp h
    exact ⟨Nat.le_trans hreached hlevel, Nat.le_add_right _ _⟩

/-- No terminal is missed that was not looked for. -/
theorem lookFor_of_missed {column : Nat} {t : Terminal} (hp : Leveled limit level p)
    (h : (column, t) ∈ (p.parser cursor).trace.toList) :
    ⟨column, .lookFor t⟩ ∈ p.steps cursor := by
  induction hp generalizing cursor with
  | pure a => exact absurd h Parser.not_mem_trace_pure
  | bind _ _ _ _ ihp ihf =>
    rcases Parser.mem_trace_bind.mp h with h | ⟨a, next, ha, h⟩
    · exact mem_steps_bind.mpr (.inl (ihp h))
    · exact mem_steps_bind.mpr (.inr ⟨a, next, ha, ihf a h⟩)
  | orElse _ _ ihp ihq =>
    rcases Parser.mem_trace_orElse.mp h with h | ⟨hmismatch, h⟩
    · exact mem_steps_orElse.mpr (.inl (ihp h))
    · exact mem_steps_orElse.mpr (.inr ⟨hmismatch, ihq h⟩)
  | optional _ ihp => exact ihp (Parser.mem_trace_optional.mp h)
  | terminal t =>
    cases (Parser.mem_trace_terminal.mp h).2
    exact List.mem_singleton.mpr rfl
  | skip cls =>
    cases Parser.mem_trace_skip.mp h
    exact lookFor_mem_stepsThrough cls cursor
  | run cls =>
    cases Parser.mem_trace_run.mp h
    exact lookFor_mem_stepsThrough cls cursor
  | marked _ _ ihp => exact List.mem_cons_of_mem _ (ihp h)
  | tooDeep => exact absurd h Parser.not_mem_trace_tooDeep

/-- Levels run out at an operand just below the limit. -/
theorem operand_of_tooDeep {column : Nat} (hp : Leveled limit level p)
    (h : (p.parser cursor).reply = .tooDeep column) :
    ⟨column, .operand (limit + 1)⟩ ∈ p.steps cursor := by
  induction hp generalizing cursor with
  | pure a => cases h
  | bind _ _ _ _ ihp ihf =>
    rcases Parser.reply_bind_eq_tooDeep.mp h with h | ⟨a, next, ha, h⟩
    · exact mem_steps_bind.mpr (.inl (ihp h))
    · exact mem_steps_bind.mpr (.inr ⟨a, next, ha, ihf a h⟩)
  | orElse _ _ ihp ihq =>
    rcases Parser.reply_orElse_eq_tooDeep.mp h with h | ⟨hmismatch, h⟩
    · exact mem_steps_orElse.mpr (.inl (ihp h))
    · exact mem_steps_orElse.mpr (.inr ⟨hmismatch, ihq h⟩)
  | optional _ ihp => exact ihp (Parser.reply_optional_eq_tooDeep.mp h)
  | terminal t => exact absurd h (Parser.flat_terminal t cursor column)
  | skip cls => exact absurd h (Parser.flat_skip cls cursor column)
  | run cls => exact absurd h (Parser.flat_run cls cursor column)
  | marked _ _ ihp => exact List.mem_cons_of_mem _ (ihp h)
  | tooDeep =>
    cases h
    exact List.mem_singleton.mpr rfl

end Leveled

end Recorded

end TagQuery
