import TagQuery.Proofs.Parser.Trace

/-!
# Parsers put together from the combinators

* `Parser.Composed p`: the parser is put together by the combinators from terminals other than the
  end of the query, from gaps and from runs. All rules up to `query` are (`composed_query`), so what
  the combinators keep is proved once for all of them.
* `Composed.passes`: a value comes with the text that was passed over.
* `Composed.missed`: an entry of the trace is about a place further on in the text, where the
  terminal is not.
* `Composed.explains`: no mismatch without such an entry.
-/

namespace TagQuery.Parser

/-- Put together by the combinators. Only a whole query looks for its end. -/
inductive Composed : {α : Type} → Parser α → Prop where
  | pure {α : Type} (a : α) : Composed (Pure.pure a : Parser α)
  | bind {α β : Type} {p : Parser α} {f : α → Parser β} :
      Composed p → (∀ a, Composed (f a)) → Composed (p >>= f)
  | orElse {α : Type} {p q : Parser α} : Composed p → Composed q → Composed (orElse p q)
  | optional {α : Type} {p : Parser α} : Composed p → Composed (optional p)
  | tooDeep {α : Type} : Composed (tooDeep : Parser α)
  | terminal {t : Terminal} (inside : t ≠ .endOfInput) : Composed (terminal t)
  | skip (cls : CharClass) : Composed (skip cls)
  | run (cls : CharClass) : Composed (run cls)

/-! ## The rules -/

theorem respects_composed : Respects Parser Parser fun p _ => Composed p where
  pure := .pure
  bind hp hf := .bind hp hf
  orElse hp hq := .orElse hp hq
  optional hp := .optional hp
  symbol _ := .terminal nofun
  keyword _ := .terminal nofun
  skip := .skip
  run := .run
  tooDeep := .tooDeep
  marked _ _ hp := hp

theorem composed_value : Composed value :=
  respects_composed.value

theorem composed_query (levels : Nat) : Composed (query levels) :=
  respects_composed.query levels 0 0 0 0

/-! ## What the combinators keep -/

namespace Composed

variable {α : Type} {p : Parser α} {cursor next : Cursor} {a : α} {column : Nat} {t : Terminal}

/-- What is passed over lies between the two places. -/
theorem passes (hp : Composed p) (h : (p cursor).reply = .done a next) :
    ∃ read, cursor.Passes read next := by
  induction hp generalizing cursor next with
  | pure b =>
    obtain ⟨-, rfl⟩ := reply_pure_eq_done.mp h
    exact ⟨[], .refl cursor⟩
  | bind _ _ ihp ihf =>
    obtain ⟨b, middle, hb, ha⟩ := reply_bind_eq_done.mp h
    obtain ⟨first, hfirst⟩ := ihp hb
    obtain ⟨read, hread⟩ := ihf b ha
    exact ⟨first ++ read, hfirst.trans hread⟩
  | orElse _ _ ihp ihq =>
    rcases reply_orElse_eq_done.mp h with h | ⟨-, h⟩
    · exact ihp h
    · exact ihq h
  | optional _ ihp =>
    rcases reply_optional_eq_done.mp h with ⟨b, h, -⟩ | ⟨-, -, rfl⟩
    · exact ihp h
    · exact ⟨[], .refl _⟩
  | tooDeep => cases h
  | terminal inside =>
    obtain ⟨word, -, hpasses⟩ := terminal_passes h
    exact ⟨word, hpasses⟩
  | skip cls =>
    obtain rfl := reply_skip_eq_done.mp h
    exact ⟨_, cursor.passes_after cls⟩
  | run cls =>
    obtain ⟨-, -, rfl⟩ := reply_run_eq_done.mp h
    exact ⟨_, cursor.passes_after cls⟩

/-- Where a parser ends, it is at a later column of the same text. -/
theorem ofColumn_of_done {text : List Char} (hp : Composed p)
    (h : (p (.ofColumn text column)).reply = .done a next) :
    next = .ofColumn text next.column ∧ column ≤ next.column := by
  obtain ⟨read, hread⟩ := hp.passes h
  exact ⟨hread.eq_ofColumn, hread.column_le⟩

/-- Only a whole query misses the end of the text. -/
theorem ne_endOfInput (hp : Composed p) (h : (column, t) ∈ (p cursor).trace.toList) :
    t ≠ .endOfInput := by
  induction hp generalizing cursor with
  | pure b => exact absurd h not_mem_trace_pure
  | bind _ _ ihp ihf =>
    rcases mem_trace_bind.mp h with h | ⟨b, middle, -, h⟩
    · exact ihp h
    · exact ihf b h
  | orElse _ _ ihp ihq =>
    rcases mem_trace_orElse.mp h with h | ⟨-, h⟩
    · exact ihp h
    · exact ihq h
  | optional _ ihp => exact ihp (mem_trace_optional.mp h)
  | tooDeep => exact absurd h not_mem_trace_tooDeep
  | terminal inside =>
    obtain ⟨-, hentry⟩ := mem_trace_terminal.mp h
    cases hentry
    exact inside
  | skip cls =>
    cases mem_trace_skip.mp h
    exact nofun
  | run cls =>
    cases mem_trace_run.mp h
    exact nofun

theorem forward (hp : Composed p) : Forward p := by
  intro cursor a next h
  obtain ⟨read, hread⟩ := hp.passes h
  exact hread.reaches

theorem strip?_after (cursor : Cursor) (cls : CharClass) :
    (Terminal.character cls).strip? (cursor.after cls).rest = none := by
  refine Terminal.strip?_character.mpr fun c hc => ?_
  have hhead := List.head?_dropWhile_not cls.contains cursor.rest
  rw [show (cursor.rest.dropWhile cls.contains).head? = some c from hc] at hhead
  simpa using hhead

/-- What is missed is not at the place where it is missed. -/
theorem missed (hp : Composed p) (h : (column, t) ∈ (p cursor).trace.toList) :
    ∃ read next, cursor.Passes read next ∧ next.column = column ∧ t.strip? next.rest = none := by
  induction hp generalizing cursor with
  | pure b => exact absurd h not_mem_trace_pure
  | bind hp _ ihp ihf =>
    rcases mem_trace_bind.mp h with h | ⟨b, middle, hb, h⟩
    · exact ihp h
    · obtain ⟨first, hfirst⟩ := hp.passes hb
      obtain ⟨read, next, hread, hnext⟩ := ihf b h
      exact ⟨first ++ read, next, hfirst.trans hread, hnext⟩
  | orElse _ _ ihp ihq =>
    rcases mem_trace_orElse.mp h with h | ⟨-, h⟩
    · exact ihp h
    · exact ihq h
  | optional _ ihp => exact ihp (mem_trace_optional.mp h)
  | tooDeep => exact absurd h not_mem_trace_tooDeep
  | terminal inside =>
    obtain ⟨hstrip, hentry⟩ := mem_trace_terminal.mp h
    cases hentry
    exact ⟨[], cursor, .refl cursor, rfl, hstrip⟩
  | skip cls =>
    cases mem_trace_skip.mp h
    exact ⟨_, _, cursor.passes_after cls, rfl, strip?_after cursor cls⟩
  | run cls =>
    cases mem_trace_run.mp h
    exact ⟨_, _, cursor.passes_after cls, rfl, strip?_after cursor cls⟩

/-- Nothing is missed before the place where the parser begins. -/
theorem le_of_mem (hp : Composed p) (h : (column, t) ∈ (p cursor).trace.toList) :
    cursor.column ≤ column := by
  obtain ⟨read, next, hread, rfl, -⟩ := hp.missed h
  exact hread.column_le

/-- A mismatch comes from a terminal that was missed on the way. -/
theorem explains (hp : Composed p) (h : (p cursor).reply = .mismatch) :
    ∃ column t, (column, t) ∈ (p cursor).trace.toList := by
  induction hp generalizing cursor with
  | pure b => cases h
  | bind _ _ ihp ihf =>
    rcases reply_bind_eq_mismatch.mp h with h | ⟨b, middle, hb, h⟩
    · obtain ⟨column, t, hmem⟩ := ihp h
      exact ⟨column, t, mem_trace_bind.mpr (.inl hmem)⟩
    · obtain ⟨column, t, hmem⟩ := ihf b h
      exact ⟨column, t, mem_trace_bind.mpr (.inr ⟨b, middle, hb, hmem⟩)⟩
  | orElse _ _ _ ihq =>
    obtain ⟨hp, hq⟩ := reply_orElse_eq_mismatch.mp h
    obtain ⟨column, t, hmem⟩ := ihq hq
    exact ⟨column, t, mem_trace_orElse.mpr (.inr ⟨hp, hmem⟩)⟩
  | optional _ _ =>
    unfold Parser.optional at h
    split at h <;> cases h
  | tooDeep => cases h
  | terminal inside =>
    have hstrip := reply_terminal_eq_mismatch.mp h
    exact ⟨_, _, mem_trace_terminal.mpr ⟨hstrip, rfl⟩⟩
  | skip cls => cases h
  | run cls => exact ⟨_, _, mem_trace_run.mpr rfl⟩

end Composed

/-! ## A whole query -/

variable {limit : Nat} {cursor : Cursor} {entry : Nat × Terminal}

/-- A whole query misses what the query does, or else the end of the text after it. -/
theorem mem_trace_wholeQuery : entry ∈ (wholeQuery limit cursor).trace.toList ↔
    entry ∈ (query (limit + 1) cursor).trace.toList ∨
      ∃ e next, (query (limit + 1) cursor).reply = .done e next ∧ next.rest ≠ [] ∧
        entry = (next.column, .endOfInput) := by
  have hend : ∀ (e : Expr) (next : Cursor),
      entry ∈ ((do terminal .endOfInput; return e : Parser Expr) next).trace.toList ↔
        next.rest ≠ [] ∧ entry = (next.column, .endOfInput) := by
    intro e next
    have hpure : ¬∃ (u : Unit) (last : Cursor),
        (terminal .endOfInput next).reply = .done u last ∧
          entry ∈ ((Pure.pure e : Parser Expr) last).trace.toList :=
      fun ⟨_, _, _, hmem⟩ => not_mem_trace_pure hmem
    rw [mem_trace_bind, mem_trace_terminal, Terminal.strip?_endOfInput]
    exact or_iff_left hpure
  rw [wholeQuery_eq, mem_trace_bind]
  simp only [hend]

/-- All of it is missed in the text or at its end. -/
theorem wholeQuery_column_le {text : String} {column : Nat} {t : Terminal}
    (h : (column, t) ∈ (wholeQuery limit (Cursor.start text)).trace.toList) :
    column ≤ text.length := by
  obtain ⟨read, next, hread, hcolumn⟩ :
      ∃ read next, (Cursor.start text).Passes read next ∧ next.column = column := by
    rcases mem_trace_wholeQuery.mp h with h | ⟨e, next, hquery, -, hentry⟩
    · obtain ⟨read, next, hread, hcolumn, -⟩ := (composed_query _).missed h
      exact ⟨read, next, hread, hcolumn⟩
    · obtain ⟨read, hread⟩ := (composed_query _).passes hquery
      cases hentry
      exact ⟨read, next, hread, rfl⟩
  have hupTo : (Cursor.start text).UpTo column fun _ => True :=
    ⟨read, next, hread, hcolumn, trivial⟩
  exact hupTo.of_start.1

/-- What is missed in a text is not there. -/
theorem wholeQuery_missed {text : List Char} {column : Nat} {t : Terminal}
    (h : (column, t) ∈ (wholeQuery limit (.ofColumn text 0)).trace.toList) :
    t.strip? (text.drop column) = none := by
  obtain ⟨read, next, hread, rfl, hmissed⟩ :
      ∃ read next, (Cursor.ofColumn text 0).Passes read next ∧ next.column = column ∧
        t.strip? next.rest = none := by
    rcases mem_trace_wholeQuery.mp h with h | ⟨e, next, hquery, hopen, hentry⟩
    · exact (composed_query _).missed h
    · obtain ⟨read, hread⟩ := (composed_query _).passes hquery
      cases hentry
      exact ⟨read, next, hread, rfl, Terminal.strip?_endOfInput.mpr hopen⟩
  rwa [hread.eq_ofColumn] at hmissed

theorem wholeQuery_explains (h : (wholeQuery limit cursor).reply = .mismatch) :
    ∃ column t, (column, t) ∈ (wholeQuery limit cursor).trace.toList := by
  rcases reply_bind_eq_mismatch.mp h with h | ⟨e, next, hquery, h⟩
  · obtain ⟨column, t, hmem⟩ := (composed_query _).explains h
    exact ⟨column, t, mem_trace_wholeQuery.mpr (.inl hmem)⟩
  · rcases reply_bind_eq_mismatch.mp h with h | ⟨_, _, -, h⟩
    · have hopen := Terminal.strip?_endOfInput.mp (reply_terminal_eq_mismatch.mp h)
      exact ⟨_, _, mem_trace_wholeQuery.mpr (.inr ⟨e, next, hquery, hopen, rfl⟩)⟩
    · cases h

end TagQuery.Parser
