import TagQuery.Expr.ByteReader
import TagQuery.Proofs.Bytes.Terminal
import TagQuery.Proofs.Grammar
import TagQuery.Proofs.Parser.Alike
import TagQuery.Proofs.Parser.Trace

/-!
# Reading in bytes is reading in characters

* `ByteState.Tells state text column trace`: the state of a reader at a column, after it has missed
  what the trace says. Both of its offsets are offsets of columns.
* `ByteReader.Mirrors p q`: from every such state the reader has an outcome, and it is that of the
  parser at the column.
* `ByteReader.respects_mirrors`: the combinators mirror one another, so the rules do.
* `Grammar.parseBytes_eq`: no offset ever lies inside a character, and the results are the same.
-/

namespace TagQuery

open Text (bytes offset)

variable {α β : Type} {text : List Char} {column later : Nat} {trace earlier : Trace}
  {state next : ByteState}

/-! ## States -/

/-- At the offset of a column, with the memory of what the trace says was missed. -/
structure ByteState.Tells (state : ByteState) (text : List Char) (column : Nat) (trace : Trace) :
    Prop where
  column_le : column ≤ text.length
  position_eq : state.position = offset text column
  furthest_le : trace.furthest ≤ text.length
  furthest_eq : state.furthest = offset text trace.furthest
  mem_expected : ∀ t, t ∈ state.expected ↔ (trace.furthest, t) ∈ trace.toList

namespace ByteState.Tells

theorem of_furthest {place : Nat} (hplace : trace.furthest = place) (hcolumn : column ≤ text.length)
    (hposition : state.position = offset text column) (hle : place ≤ text.length)
    (hfurthest : state.furthest = offset text place)
    (hexpected : ∀ t, t ∈ state.expected ↔ (place, t) ∈ trace.toList) :
    state.Tells text column trace := by
  subst hplace
  exact ⟨hcolumn, hposition, hle, hfurthest, hexpected⟩

theorem start (text : List Char) : ByteState.start.Tells text 0 .empty where
  column_le := Nat.zero_le _
  position_eq := rfl
  furthest_le := Nat.zero_le _
  furthest_eq := rfl
  mem_expected t := by simp [ByteState.start, Trace.toList]

/-- Only what was missed counts, not how the trace was put together. -/
theorem congr {trace' : Trace} (h : state.Tells text column trace)
    (hlist : trace'.toList = trace.toList) (hfurthest : trace'.furthest = trace.furthest) :
    state.Tells text column trace' where
  column_le := h.column_le
  position_eq := h.position_eq
  furthest_le := hfurthest ▸ h.furthest_le
  furthest_eq := hfurthest ▸ h.furthest_eq
  mem_expected := by
    rw [hlist, hfurthest]
    exact h.mem_expected

theorem append_empty (h : state.Tells text column trace) : state.Tells text column (trace ++ .empty) :=
  h.congr (by simp) (by simp [Trace.furthest])

theorem assoc {middle last : Trace} (h : state.Tells text column ((trace ++ middle) ++ last)) :
    state.Tells text column (trace ++ (middle ++ last)) :=
  h.congr (by simp) (by simp [Nat.max_assoc])

theorem advance {count size : Nat} (h : state.Tells text column trace)
    (hle : column + count ≤ text.length)
    (hsize : size = (bytes ((text.drop column).take count)).length) :
    (state.advance size).Tells text (column + count) trace where
  column_le := hle
  position_eq := by
    rw [Text.offset_add, ← hsize, ← h.position_eq]
    rfl
  furthest_le := h.furthest_le
  furthest_eq := h.furthest_eq
  mem_expected := h.mem_expected

/-- Going back changes nothing about what is remembered. -/
theorem backTo (h : state.Tells text column earlier) (hnext : next.Tells text later trace) :
    (next.backTo state.position).Tells text column trace where
  column_le := h.column_le
  position_eq := h.position_eq
  furthest_le := hnext.furthest_le
  furthest_eq := hnext.furthest_eq
  mem_expected := hnext.mem_expected

/-- Offsets are compared as columns are. What was missed before the furthest place so far is
forgotten, and what is missed further on takes the place of what was. -/
theorem miss (h : state.Tells text column trace) (t : Terminal) :
    (state.miss t).Tells text column (trace ++ .missed column t) := by
  have hposition := h.position_eq
  have hold := h.furthest_eq
  have hbefore : ∀ place t', (place, t') ∈ trace.toList → place ≤ trace.furthest :=
    fun place t' hmem => Trace.le_furthest hmem
  have hlt := Text.offset_lt_offset_iff h.column_le h.furthest_le
  have hgt := Text.offset_lt_offset_iff h.furthest_le h.column_le
  rw [← hposition, ← hold] at hlt hgt
  have hmissed : (Trace.missed column t).furthest = column := rfl
  unfold ByteState.miss
  split
  next hbehind =>
    have hmax : (trace ++ .missed column t).furthest = trace.furthest := by
      rw [Trace.furthest_append, hmissed, Nat.max_eq_left (Nat.le_of_lt (hlt.mp hbehind))]
    refine .of_furthest hmax h.column_le hposition h.furthest_le hold fun t' => ?_
    rw [h.mem_expected]
    have hne : trace.furthest ≠ column := by omega
    simp [Trace.toList, hne]
  split
  next hbehind hahead =>
    have hmax : (trace ++ .missed column t).furthest = column := by
      rw [Trace.furthest_append, hmissed, Nat.max_eq_right (Nat.le_of_lt (hgt.mp hahead))]
    refine .of_furthest hmax h.column_le hposition h.column_le hposition fun t' => ?_
    have hnone : (column, t') ∉ trace.toList := fun hmem => by
      have hle := hbefore _ _ hmem
      omega
    simp [Trace.toList, hnone]
  next hbehind hahead =>
    obtain rfl : column = trace.furthest := by omega
    have hmax : (trace ++ .missed trace.furthest t).furthest = trace.furthest := by
      rw [Trace.furthest_append, hmissed, Nat.max_self]
    refine .of_furthest hmax h.column_le hposition h.furthest_le hold fun t' => ?_
    simp [Trace.toList, h.mem_expected]

end ByteState.Tells

/-! ## Readers -/

/-- The reply of a reader that ends at a column, and that of a parser. -/
inductive ByteReply.Mirrors (text : List Char) (later : Nat) : {α : Type} → ByteReply α → Reply α → Prop where
  | done {α : Type} (a : α) : Mirrors text later (.done a) (.done a (.ofColumn text later))
  | mismatch {α : Type} : Mirrors text later (.mismatch : ByteReply α) .mismatch
  | tooDeep {α : Type} {deep : Nat} (within : deep ≤ text.length) :
      Mirrors text later (.tooDeep (offset text deep) : ByteReply α) (.tooDeep deep)

namespace ByteReader

/-- In every state the reader does what the parser does at the column. -/
def Mirrors (p : ByteReader α) (q : Parser α) : Prop :=
  ∀ {text column trace state}, state.Tells text column trace →
    ∃ reply later next, p text state = some (reply, next) ∧
      reply.Mirrors text later (q (.ofColumn text column)).reply ∧
      next.Tells text later (trace ++ (q (.ofColumn text column)).trace)

variable {p p' : ByteReader α} {q q' : Parser α} {f : α → ByteReader β} {g : α → Parser β}
  {cls : CharClass}

/-! ## Combinators -/

theorem mirrors_pure (a : α) : Mirrors (Pure.pure a) (Pure.pure a) :=
  fun h => ⟨.done a, _, _, rfl, .done a, h.append_empty⟩

theorem Mirrors.bind (hp : Mirrors p q) (hf : ∀ a, Mirrors (f a) (g a)) :
    Mirrors (p >>= f) (q >>= g) := by
  intro text column trace state h
  obtain ⟨reply, later, next, hresult, hreply, hnext⟩ := hp h
  show ∃ reply later next, ByteReader.bind p f text state = some (reply, next) ∧ _
  rcases houtcome : q (.ofColumn text column) with ⟨replyq, missed⟩
  rw [houtcome] at hreply hnext
  unfold ByteReader.bind
  rw [hresult]
  cases hreply with
  | done a =>
    rw [Parser.bind_of_done houtcome]
    obtain ⟨reply, last, final, hresult, hreply, hfinal⟩ := hf a hnext
    exact ⟨reply, last, final, hresult, hreply, hfinal.assoc⟩
  | mismatch =>
    rw [Parser.bind_of_mismatch houtcome]
    exact ⟨_, later, next, rfl, .mismatch, hnext⟩
  | tooDeep within =>
    rw [Parser.bind_of_tooDeep houtcome]
    exact ⟨_, later, next, rfl, .tooDeep within, hnext⟩

theorem Mirrors.orElse (hp : Mirrors p q) (hp' : Mirrors p' q') :
    Mirrors (ByteReader.orElse p p') (Parser.orElse q q') := by
  intro text column trace state h
  obtain ⟨reply, later, next, hresult, hreply, hnext⟩ := hp h
  rcases houtcome : q (.ofColumn text column) with ⟨replyq, missed⟩
  rw [houtcome] at hreply hnext
  unfold ByteReader.orElse
  rw [hresult]
  cases hreply with
  | done a =>
    rw [Parser.orElse_of_done houtcome]
    exact ⟨_, later, next, rfl, .done a, hnext⟩
  | mismatch =>
    rw [Parser.orElse_of_mismatch houtcome]
    obtain ⟨reply, last, final, hresult, hreply, hfinal⟩ := hp' (h.backTo hnext)
    exact ⟨reply, last, final, hresult, hreply, hfinal.assoc⟩
  | tooDeep within =>
    rw [Parser.orElse_of_tooDeep houtcome]
    exact ⟨_, later, next, rfl, .tooDeep within, hnext⟩

theorem Mirrors.optional (hp : Mirrors p q) :
    Mirrors (ByteReader.optional p) (Parser.optional q) := by
  intro text column trace state h
  obtain ⟨reply, later, next, hresult, hreply, hnext⟩ := hp h
  rcases houtcome : q (.ofColumn text column) with ⟨replyq, missed⟩
  rw [houtcome] at hreply hnext
  unfold ByteReader.optional
  rw [hresult]
  cases hreply with
  | done a =>
    rw [Parser.optional_of_done houtcome]
    exact ⟨_, later, next, rfl, .done (some a), hnext⟩
  | mismatch =>
    rw [Parser.optional_of_mismatch houtcome]
    exact ⟨_, column, _, rfl, .done none, h.backTo hnext⟩
  | tooDeep within =>
    rw [Parser.optional_of_tooDeep houtcome]
    exact ⟨_, later, next, rfl, .tooDeep within, hnext⟩

theorem mirrors_tooDeep : Mirrors (ByteReader.tooDeep : ByteReader α) Parser.tooDeep := by
  intro text column trace state h
  refine ⟨.tooDeep state.position, column, state, rfl, ?_, h.append_empty⟩
  rw [h.position_eq]
  exact .tooDeep h.column_le

theorem mirrors_terminal (t : Terminal) : Mirrors (ByteReader.terminal t) (Parser.terminal t) := by
  intro text column trace state h
  have hsize := t.sizeAt?_offset h.column_le
  rw [← h.position_eq] at hsize
  unfold ByteReader.terminal
  rw [hsize]
  cases hstrip : t.strip? (text.drop column) with
  | none =>
    rw [Parser.terminal_of_none hstrip]
    exact ⟨_, column, _, rfl, .mismatch, h.miss t⟩
  | some rest =>
    rw [Parser.terminal_of_some hstrip]
    obtain ⟨word, hword, htext, -⟩ := Terminal.strip?_eq_some_iff.mp hstrip
    have hlength := congrArg List.length htext
    rw [List.length_drop, List.length_append, Terminal.length_of_matches hword] at hlength
    have hcolumn := h.column_le
    have hnext := h.advance (show column + t.width ≤ text.length by omega) rfl
    have hrest : rest = text.drop (column + t.width) := by
      rw [← List.drop_drop, htext, ← Terminal.length_of_matches hword, List.drop_left]
    subst hrest
    exact ⟨_, column + t.width, _, rfl, .done (), hnext.append_empty⟩

/-! ## Runs -/

theorem after_eq_ofColumn (text : List Char) (column : Nat) (cls : CharClass) :
    (Cursor.ofColumn text column).after cls =
      .ofColumn text ((Cursor.ofColumn text column).after cls).column :=
  (Cursor.passes_after _ cls).eq_ofColumn

/-- A run ends in front of a character of another class. -/
theorem pass_of_head (h : state.Tells text column trace)
    (hhead : ∀ c ∈ (text.drop column).head?, ¬cls.contains c) :
    ∃ next, pass cls text state = some next ∧
      next.Tells text ((Cursor.ofColumn text column).after cls).column
        (trace ++ .missed ((Cursor.ofColumn text column).after cls).column (.character cls)) := by
  have hsize := (Terminal.character cls).sizeAt?_offset h.column_le
  rw [← h.position_eq, Terminal.strip?_character.mpr hhead] at hsize
  rw [pass_of_none hsize, Parser.after_of_head hhead]
  exact ⟨_, rfl, h.miss _⟩

/-- Looking from character to character gets as far as the run of the class. -/
theorem pass_tells (cls : CharClass) (h : state.Tells text column trace) :
    ∃ next, pass cls text state = some next ∧
      next.Tells text ((Cursor.ofColumn text column).after cls).column
        (trace ++ .missed ((Cursor.ofColumn text column).after cls).column (.character cls)) := by
  induction hrest : text.drop column generalizing column state with
  | nil =>
    apply pass_of_head h
    simp [hrest]
  | cons c rest ih =>
    by_cases hc : cls.contains c
    · have hsize := (Terminal.character cls).sizeAt?_offset h.column_le
      rw [hrest, ← h.position_eq, Terminal.strip?, if_pos hc] at hsize
      have hlength := congrArg List.length hrest
      rw [List.length_drop, List.length_cons] at hlength
      have hnext : text.drop (column + 1) = rest := by
        rw [← List.drop_drop, hrest, List.drop_one, List.tail_cons]
      have hadvance := h.advance (show column + 1 ≤ text.length by omega) rfl
      rw [hrest] at hadvance
      have hafter : (Cursor.ofColumn text column).after cls =
          (Cursor.ofColumn text (column + 1)).after cls := by
        rw [Cursor.ofColumn, hrest, Parser.after_cons hc, Cursor.ofColumn, hnext]
      rw [pass_of_some hsize, hafter]
      exact ih hadvance hnext
    · apply pass_of_head h
      simpa [hrest] using hc

theorem mirrors_skip (cls : CharClass) : Mirrors (ByteReader.skip cls) (Parser.skip cls) := by
  intro text column trace state h
  obtain ⟨next, hpass, hnext⟩ := pass_tells cls h
  refine ⟨.done (), _, next, ?_, ?_, hnext⟩
  · simp [ByteReader.skip, hpass]
  · simp only [Parser.skip]
    rw [after_eq_ofColumn]
    exact .done ()

/-- The characters between the two offsets are the run of the class. -/
theorem mirrors_run (cls : CharClass) : Mirrors (ByteReader.run cls) (Parser.run cls) := by
  intro text column trace state h
  obtain ⟨next, hpass, hnext⟩ := pass_tells cls h
  have hafter := after_eq_ofColumn text column cls
  generalize hrun : (text.drop column).takeWhile cls.contains = run
  have hcolumn : ((Cursor.ofColumn text column).after cls).column = column + run.length := by
    rw [← hrun]
    rfl
  rw [hcolumn] at hnext hafter
  have htake : (text.drop column).take run.length = run :=
    hrun ▸ (List.prefix_iff_eq_take.mp (List.takeWhile_prefix _)).symm
  have hslice := Text.slice?_offset text column run.length
  rw [htake, ← h.position_eq, ← hnext.position_eq] at hslice
  have hread : ByteReader.run cls text state =
      some (if run.isEmpty then .mismatch else .done (String.ofList run), next) := by
    have hlt := Text.offset_lt_offset_iff h.column_le hnext.column_le
    rw [← h.position_eq, ← hnext.position_eq] at hlt
    cases run <;> simp [ByteReader.run, hpass, hlt, hslice]
  have hparse : Parser.run cls (.ofColumn text column) =
      ⟨if run.isEmpty then .mismatch else .done (String.ofList run) (.ofColumn text (column + run.length)),
        .missed (column + run.length) (.character cls)⟩ := by
    unfold Parser.run
    rw [hafter, show (Cursor.ofColumn text column).rest.takeWhile cls.contains = run from hrun]
    rfl
  rw [hparse]
  refine ⟨_, column + run.length, next, hread, ?_, hnext⟩
  cases run with
  | nil => exact .mismatch
  | cons c run => exact .done _

/-! ## Rules -/

theorem respects_mirrors : Respects ByteReader Parser fun p q => Mirrors p q where
  pure := mirrors_pure
  bind hp hf := hp.bind hf
  orElse hp hq := hp.orElse hq
  optional hp := hp.optional
  symbol _ := mirrors_terminal _
  keyword _ := mirrors_terminal _
  skip := mirrors_skip
  run := mirrors_run
  tooDeep := mirrors_tooDeep
  marked _ _ hp := hp

theorem mirrors_wholeQuery (limit : Nat) :
    Mirrors (ByteReader.wholeQuery limit) (Parser.wholeQuery limit) :=
  respects_mirrors.wholeQuery (mirrors_terminal _) limit

end ByteReader

/-! ## Results -/

/-- The memory of a reader gives the explanation of the trace. -/
theorem ByteState.Tells.explanation?_eq (h : state.Tells text column trace) :
    state.explanation? text = some (.ofTrace text trace) := by
  have hexpected : ∀ t, t ∈ state.expected ↔ t ∈ trace.missedAt trace.furthest := by
    intro t
    rw [h.mem_expected, Trace.mem_missedAt]
  have hlength : (text.take trace.furthest).length = trace.furthest := by
    rw [List.length_take, Nat.min_eq_left h.furthest_le]
  simp [ByteState.explanation?, h.furthest_eq, Text.splitAt?_offset, Rejection.ofTrace, hexpected,
    hlength]

theorem ByteState.Tells.column?_position (h : state.Tells text column trace) :
    Text.column? text state.position = some column := by
  rw [h.position_eq, Text.column?_offset h.column_le]

theorem ByteState.Tells.column?_furthest (h : state.Tells text column trace) :
    Text.column? text state.furthest = some trace.furthest := by
  rw [h.furthest_eq, Text.column?_offset h.furthest_le]

namespace Grammar

/-- A whole query, in bytes and in characters. -/
theorem wholeQuery_mirrors (g : Grammar) (text : String) : ∃ reply later state,
    ByteReader.wholeQuery g.maxDepth text.toList .start = some (reply, state) ∧
      reply.Mirrors text.toList later (Parser.wholeQuery g.maxDepth (.start text)).reply ∧
      state.Tells text.toList later (Parser.wholeQuery g.maxDepth (.start text)).trace := by
  obtain ⟨reply, later, state, hresult, hreply, hstate⟩ :=
    ByteReader.mirrors_wholeQuery g.maxDepth (.start text.toList)
  rw [← Cursor.start_eq_ofColumn] at hreply hstate
  exact ⟨reply, later, state, hresult, hreply, hstate.congr (by simp) (by simp [Trace.furthest])⟩

/-- The offsets at which a reader ends lie between characters, and counting the characters before
them gives the columns of the parser. -/
theorem column?_of_wholeQuery {reply : ByteReply Expr} (g : Grammar) (text : String)
    (h : ByteReader.wholeQuery g.maxDepth text.toList .start = some (reply, state)) :
    Text.column? text.toList state.furthest =
        some (Parser.wholeQuery g.maxDepth (.start text)).trace.furthest ∧
      (∀ e, reply = .done e → ∃ last,
        (Parser.wholeQuery g.maxDepth (.start text)).reply = .done e last ∧
          Text.column? text.toList state.position = some last.column) ∧
      ∀ position, reply = .tooDeep position → ∃ deep,
        (Parser.wholeQuery g.maxDepth (.start text)).reply = .tooDeep deep ∧
          Text.column? text.toList position = some deep := by
  obtain ⟨reply', later, state', hresult, hreply, hstate⟩ := wholeQuery_mirrors g text
  cases h.symm.trans hresult
  refine ⟨hstate.column?_furthest, ?_, ?_⟩
  all_goals generalize (Parser.wholeQuery g.maxDepth (.start text)).reply = parsed at hreply
  · rintro e rfl
    cases hreply
    exact ⟨_, rfl, hstate.column?_position⟩
  · rintro position rfl
    cases hreply with
    | tooDeep within => exact ⟨_, rfl, Text.column?_offset within⟩

/-- **Offsets are character boundaries.** Reading in bytes always has an outcome, so no offset from
which the text is looked at lies inside a character, and the result is the one that counts
characters. -/
theorem parseBytes_eq (g : Grammar) (text : String) : g.parseBytes text = some (g.parse text) := by
  obtain ⟨reply, later, state, hresult, hreply, hstate⟩ := wholeQuery_mirrors g text
  have hexplanation := hstate.explanation?_eq
  unfold parseBytes parse
  rw [hresult]
  generalize Parser.wholeQuery g.maxDepth (.start text) = outcome at hreply hexplanation ⊢
  obtain ⟨parsed, trace⟩ := outcome
  cases hreply with
  | done e => rfl
  | mismatch => simp [hexplanation]
  | tooDeep within => simp [Text.column?_offset within]

end Grammar

end TagQuery
