import Mathlib.Algebra.Group.Nat.Defs
import TagQuery.Expr.Recorder
import TagQuery.Proofs.Bytes.Terminal
import TagQuery.Proofs.Grammar
import TagQuery.Proofs.Language.Progress
import TagQuery.Proofs.Parser.Leveled

/-!
# Levels never outrun the text

Every way down a level, into a group, along a link or behind a negation, takes a character of the
text at least. So no level is higher than the column where it is reached, whatever the limit.

* `Recorded.leveled_query`: the rules keep levels below columns, from link to link and from group to
  group.
* `Grammar.column?_position_of_mem_steps`: the position of a step, in bytes, is that of its column.
  `Terminal.sizeAt?_le_bytes`: a terminal found there takes up no more bytes than the step counts.
* `Grammar.steps_bounded`: no level and no position that reading a query works out exceeds 64 bits.
-/

namespace TagQuery

namespace Recorded

open Rules

variable {limit level : Nat}

/-! ## Levels below columns -/

/-- Inside tags and operators no level is worked out. -/
theorem respectsText_leveled :
    RespectsText Recorded Recorded fun p _ => Leveled limit level p where
  pure := .pure
  bind hp hf := .bind_forward hp hf
  orElse hp hq := .orElse hp hq
  optional hp := .optional hp
  symbol _ := .terminal _
  keyword _ := .terminal _
  skip := .skip
  run := .run

/-- The parenthesis makes room for the next level. -/
theorem leveled_tagOrGroup {inner : Unit → Recorded Expr} (h : Leveled limit (level + 1) (inner ())) :
    Leveled limit level (tagOrGroup inner) :=
  .orElse (.bind_forward respectsText_leveled.tag fun _ => .pure _) <|
    .bind_consumes (.terminal _) (Parser.consumes_symbol .groupOpen) fun _ =>
      .bind_forward h fun _ => .bind_forward (.terminal _) fun _ => .pure _

/-- The word makes room for the next level. -/
theorem leveled_negation {p : Recorded Expr} (h : Leveled limit (level + 1) p) :
    Leveled limit level (negation p) :=
  .bind_forward (.skip .space) fun _ =>
    .bind_consumes (.terminal _) (Parser.consumes_keyword .not) fun _ =>
      .bind_forward (.skip .space) fun _ => .bind_forward h fun _ => .pure _

theorem leveled_chain (left : Expr) {right : Recorded Expr} (h : Leveled limit level right) :
    Leveled limit level (chain left right) :=
  respectsText_leveled.chain left (q := right) h

mutual

/-- A query keeps levels below columns wherever there are as many columns before it as links and
levels. -/
theorem leveled_query (levels depth links : Nat) (h : depth + links + levels = limit + 1) :
    Leveled limit (depth + links) (query levels depth links) := by
  unfold Rules.query
  refine .marked (Nat.le_refl _) ?_
  match levels with
  | 0 =>
    obtain h : depth + links = limit + 1 := h
    rw [h]
    exact .tooDeep (Nat.le_refl _)
  | below + 1 =>
    have hroom : depth + links + 1 + below = limit + 1 := by omega
    have hgroup := leveled_query below (depth + links + 1) 0 hroom
    -- The operand takes a character, so a link may lie one level below it.
    refine .bind_optional (.marked (Nat.le_refl _) (leveled_tagOrGroup hgroup))
      (Parser.consumes_tagOrGroup hgroup.forward) ?_ ?_
    · exact fun left => leveled_chain left (leveled_query below depth (links + 1) hroom)
    · have hoperand := leveled_operand below (depth + links + 1) hroom
      exact .marked (Nat.le_refl _) (leveled_negation hoperand)

theorem leveled_operand (levels level : Nat) (h : level + levels = limit + 1) :
    Leveled limit level (operand levels level) := by
  unfold Rules.operand
  match levels with
  | 0 =>
    obtain rfl : level = limit + 1 := h
    exact .tooDeep (Nat.le_refl _)
  | below + 1 =>
    have hroom : level + 1 + below = limit + 1 := by omega
    exact .marked (Nat.le_refl _) (leveled_tagOrGroup (leveled_query below (level + 1) 0 hroom))

end

theorem leveled_wholeQuery (limit : Nat) : Leveled limit 0 (Recorded.wholeQuery limit) := by
  have hquery : Leveled limit 0 (query (limit + 1) 0 0) :=
    leveled_query (limit + 1) 0 0 (Nat.zero_add _)
  exact .bind_forward hquery fun _ => .bind_forward (.terminal _) fun _ => .pure _

end Recorded

/-! ## Positions -/

theorem Terminal.bytes_le (t : Terminal) : t.bytes ≤ 4 := by
  rcases t with s | k | cls | _
  · rcases s with kind | _ | _ | _ | _ | _ <;> first | decide | (cases kind <;> decide)
  · rcases k with op | _ <;> first | decide | (cases op <;> decide)
  · exact Nat.le_refl 4
  · exact Nat.zero_le 4

/-- What is found at an offset takes up no more. -/
theorem Terminal.sizeAt?_le_bytes {t : Terminal} {text : List Char} {position size : Nat}
    (h : t.sizeAt? text position = some (some size)) : size ≤ t.bytes := by
  have hword : ∀ word : String, (Text.bytes word.toList).length = word.utf8ByteSize := by
    intro word
    rw [Text.length_bytes, String.ofList_toList]
  cases t with
  | symbol s =>
    simp only [sizeAt?, Option.bind_eq_bind, Option.bind_eq_some_iff, Prod.exists] at h
    obtain ⟨before, rest, -, h⟩ := h
    have hsize : (Text.bytes s.text.toList).length = size := by grind
    exact Nat.le_of_eq (hsize.symm.trans (hword s.text))
  | keyword k =>
    have hsize : (Text.bytes k.text.toList).length = size := by grind [sizeAt?]
    exact Nat.le_of_eq (hsize.symm.trans (hword k.text))
  | character cls => exact (sizeAt?_character h).2.1
  | endOfInput =>
    have hsize : 0 = size := by grind [sizeAt?]
    exact Nat.le_of_eq hsize.symm

namespace Step

variable {step : Step} {text : String}

/-- Every character before a step takes up a byte at least. -/
theorem column_le_position (h : step.column ≤ text.length) : step.column ≤ step.position text := by
  rw [← String.length_toList] at h
  exact Text.column_le_offset h

theorem position_le (step : Step) (text : String) : step.position text ≤ text.utf8ByteSize := by
  have hbytes := Text.length_bytes text.toList
  rw [String.ofList_toList] at hbytes
  exact hbytes ▸ Text.offset_le text.toList step.column

/-- A step works out a level or a position, and none far away. -/
theorem sum_le (step : Step) (text : String) :
    step.sum text ≤ step.act.level + 1 ∨ step.sum text ≤ step.position text + 4 := by
  obtain ⟨column, act⟩ := step
  cases act with
  | link depth links => exact .inl (Nat.le_succ _)
  | operand level => exact .inl (Nat.le_refl _)
  | negation level => exact .inl (Nat.le_refl _)
  | lookFor t => exact .inr (Nat.add_le_add_left t.bytes_le _)

end Step

namespace Grammar

variable {g : Grammar} {text : String} {step : Step} {column limit : Nat}

/-- A step takes place in the text, on a level no higher than its column. -/
theorem within_of_mem_steps (h : step ∈ g.steps text) :
    step.act.level ≤ step.column ∧ step.column ≤ text.length := by
  have hwithin := (Recorded.leveled_wholeQuery g.maxDepth).within (Nat.zero_le _) h
  have hcolumn : step.column ≤ 0 + text.toList.length := hwithin.column_le
  rw [Nat.zero_add, String.length_toList] at hcolumn
  exact ⟨hwithin.level_le, hcolumn⟩

/-- The position of a step lies between two characters, and counting the characters before it gives
the column of the step. -/
theorem column?_position_of_mem_steps (h : step ∈ g.steps text) :
    Text.column? text.toList (step.position text) = some step.column := by
  have hcolumn := (within_of_mem_steps h).2
  rw [← String.length_toList] at hcolumn
  exact Text.column?_offset hcolumn

/-- A grammar that gives up has come to an operand just below its limit. -/
theorem operand_mem_steps (h : g.parse text = .error (.tooDeep column limit)) :
    ⟨column, .operand (limit + 1)⟩ ∈ g.steps text := by
  obtain ⟨rfl, hdeep⟩ := parse_eq_tooDeep.mp h
  rw [← Recorded.parser_wholeQuery] at hdeep
  exact (Recorded.leveled_wholeQuery g.maxDepth).operand_of_tooDeep hdeep

/-- What the reader has missed it has looked for. -/
theorem lookFor_mem_steps {t : Terminal}
    (h : (column, t) ∈ (Parser.wholeQuery g.maxDepth (.start text)).trace.toList) :
    ⟨column, .lookFor t⟩ ∈ g.steps text := by
  rw [← Recorded.parser_wholeQuery] at h
  exact (Recorded.leveled_wholeQuery g.maxDepth).lookFor_of_missed h

/-- **Levels never outrun the text.** Recording the steps changes nothing about the reader, and what
it tells of, an operand below the limit or a terminal that it missed, is on record. Whatever the
limit, each link, operand and negation is on a level no higher than its column, which lies in the
text. So in a text of less than `2 ^ 63` bytes all levels and positions that are worked out have 64
bits, and the highest limit of 64 bits is never exceeded. -/
theorem steps_bounded (g : Grammar) {text : String} (h : text.utf8ByteSize < 2 ^ 63) :
    (Recorded.wholeQuery g.maxDepth).parser = Parser.wholeQuery g.maxDepth ∧
    (∀ column limit, g.parse text = .error (.tooDeep column limit) →
      ⟨column, .operand (limit + 1)⟩ ∈ g.steps text) ∧
    (∀ column t, (column, t) ∈ (Parser.wholeQuery g.maxDepth (.start text)).trace.toList →
      ⟨column, .lookFor t⟩ ∈ g.steps text) ∧
    (∀ step ∈ g.steps text,
      step.act.level ≤ step.column ∧ step.column ≤ text.length ∧
      step.column ≤ step.position text ∧ step.position text ≤ text.utf8ByteSize ∧
      step.sum text < 2 ^ 64) ∧
    ∀ column limit, (Grammar.mk (2 ^ 64 - 1)).parse text ≠ .error (.tooDeep column limit) := by
  have hcolumns : ∀ {g : Grammar}, ∀ step ∈ g.steps text,
      step.act.level ≤ step.column ∧ step.column ≤ text.length ∧
        step.column ≤ step.position text ∧ step.position text ≤ text.utf8ByteSize := by
    intro g step hstep
    obtain ⟨hlevel, hcolumn⟩ := within_of_mem_steps hstep
    exact ⟨hlevel, hcolumn, Step.column_le_position hcolumn, step.position_le text⟩
  refine ⟨Recorded.parser_wholeQuery g.maxDepth, fun column limit => operand_mem_steps,
    fun column t => lookFor_mem_steps, ?_, ?_⟩
  · intro step hstep
    obtain ⟨hlevel, hcolumn, hle, hposition⟩ := hcolumns step hstep
    refine ⟨hlevel, hcolumn, hle, hposition, ?_⟩
    rcases step.sum_le text with hsum | hsum <;> omega
  · intro column limit hdeep
    have hlimit : limit = 2 ^ 64 - 1 := (parse_eq_tooDeep.mp hdeep).1
    -- The operand below the limit would be on a level that the text has no column for.
    obtain ⟨hlevel, -, hle, hposition⟩ := hcolumns _ (operand_mem_steps hdeep)
    have hlevel : limit + 1 ≤ text.utf8ByteSize := Nat.le_trans hlevel (Nat.le_trans hle hposition)
    omega

/-- Two groups and a negation take a text three levels down, one too many for the limit. -/
theorem steps_bounded_groups :
    "((NOT s:a))".utf8ByteSize < 2 ^ 63 ∧
      (Grammar.mk 2).parse "((NOT s:a))" = .error (.tooDeep 6 2) ∧
      ⟨6, .operand 3⟩ ∈ (Grammar.mk 2).steps "((NOT s:a))" ∧
      (⟨6, .operand 3⟩ : Step).sum "((NOT s:a))" < 2 ^ 64 := by
  have hsize : "((NOT s:a))".utf8ByteSize < 2 ^ 63 := by decide
  have hparse : (Grammar.mk 2).parse "((NOT s:a))" = .error (.tooDeep 6 2) := rfl
  obtain ⟨-, hdeep, -, hsteps, -⟩ := steps_bounded (Grammar.mk 2) hsize
  have hmem := hdeep 6 2 hparse
  obtain ⟨-, -, -, -, hsum⟩ := hsteps _ hmem
  exact ⟨hsize, hparse, hmem, hsum⟩

/-- The bound is reached. -/
example : ⟨2, .operand 2⟩ ∈ (Grammar.mk 256).steps "((" := by decide

end Grammar

end TagQuery
