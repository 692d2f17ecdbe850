import TagQuery.Proofs.Parser.Outcome

/-!
# Where terminals are missed

* `Cursor.Passes cursor read next`: between the places lies the text `read`.
* `Cursor.ofColumn text column`: the place at a column of a text.
* `Cursor.UpTo cursor column S`: the text between the place and a column later on has the property
  `S`.
* `Parser.mem_trace_*`: which entries a combinator leaves, by the entries that its parts leave.
-/

namespace TagQuery

variable {α β : Type} {cursor middle next : Cursor} {column : Nat} {first read : List Char}
  {S S' : List Char → Prop}

/-! ## The text between two places -/

namespace Cursor

/-- The text from the first place to the second. -/
structure Passes (cursor : Cursor) (read : List Char) (next : Cursor) : Prop where
  rest_eq : cursor.rest = read ++ next.rest
  column_eq : next.column = cursor.column + read.length

theorem Passes.refl (cursor : Cursor) : cursor.Passes [] cursor :=
  ⟨rfl, rfl⟩

theorem Passes.trans (h : cursor.Passes first middle) (h' : middle.Passes read next) :
    cursor.Passes (first ++ read) next := by
  constructor
  · rw [h.rest_eq, h'.rest_eq, List.append_assoc]
  · rw [h'.column_eq, h.column_eq, List.length_append, Nat.add_assoc]

theorem Passes.column_le (h : cursor.Passes read next) : cursor.column ≤ next.column := by
  rw [h.column_eq]
  exact Nat.le_add_right _ _

theorem Passes.reaches (h : cursor.Passes read next) : cursor.Reaches next := by
  have hlength := congrArg List.length h.rest_eq
  have hcolumn := h.column_eq
  rw [List.length_append] at hlength
  exact ⟨h.column_le, by omega⟩

theorem Reaches.passes (h : cursor.Reaches next) (hrest : cursor.rest = read ++ next.rest) :
    cursor.Passes read next := by
  have htotal := h.total
  rw [hrest, List.length_append] at htotal
  exact ⟨hrest, by omega⟩

/-- After the characters of a class these have been passed over. -/
theorem passes_after (cursor : Cursor) (cls : CharClass) :
    cursor.Passes (cursor.rest.takeWhile cls.contains) (cursor.after cls) :=
  (cursor.reaches_after cls).passes List.takeWhile_append_dropWhile.symm

/-- The place at a column of a text. -/
def ofColumn (text : List Char) (column : Nat) : Cursor :=
  ⟨column, text.drop column⟩

theorem start_eq_ofColumn (text : String) : start text = ofColumn text.toList 0 := rfl

/-- What lies further on in a text lies at a column of it. -/
theorem Passes.eq_ofColumn {text : List Char} (h : (ofColumn text column).Passes read next) :
    next = ofColumn text next.column := by
  have hrest : text.drop column = read ++ next.rest := h.rest_eq
  have hcolumn : next.column = column + read.length := h.column_eq
  have hnext : next.rest = text.drop next.column := by
    rw [hcolumn, ← List.drop_drop, hrest, List.drop_left]
  cases next
  exact congrArg (Cursor.mk _) hnext

/-- The text up to a column has a property. -/
def UpTo (cursor : Cursor) (column : Nat) (S : List Char → Prop) : Prop :=
  ∃ read next, cursor.Passes read next ∧ next.column = column ∧ S read

theorem UpTo.here (h : S []) : cursor.UpTo cursor.column S :=
  ⟨[], cursor, .refl cursor, rfl, h⟩

theorem UpTo.mono (h : cursor.UpTo column S) (hS : ∀ {read}, S read → S' read) :
    cursor.UpTo column S' := by
  obtain ⟨read, next, hpasses, hcolumn, hread⟩ := h
  exact ⟨read, next, hpasses, hcolumn, hS hread⟩

theorem Passes.upTo (hpasses : cursor.Passes first middle) (h : middle.UpTo column S)
    (hS : ∀ {read}, S read → S' (first ++ read)) : cursor.UpTo column S' := by
  obtain ⟨read, next, hread, hcolumn, hS'⟩ := h
  exact ⟨first ++ read, next, hpasses.trans hread, hcolumn, hS hS'⟩

/-- From the start of a text a column counts its first characters. -/
theorem UpTo.of_start {text : String} (h : (Cursor.start text).UpTo column S) :
    column ≤ text.length ∧ S (text.toList.take column) := by
  obtain ⟨read, next, ⟨hrest, hcolumn⟩, rfl, hread⟩ := h
  have htext : text.toList = read ++ next.rest := hrest
  have hlength : next.column = read.length := by
    rw [hcolumn]
    exact Nat.zero_add _
  rw [hlength, ← String.length_toList, htext, List.take_left, List.length_append]
  exact ⟨Nat.le_add_right _ _, hread⟩

end Cursor

namespace Parser

variable {p q : Parser α} {f : α → Parser β} {entry : Nat × Terminal}

/-- A terminal that is read passes over a text that it stands for. -/
theorem terminal_passes {t : Terminal} {u : Unit} (h : (terminal t cursor).reply = .done u next) :
    ∃ word, t.Matches word ∧ cursor.Passes word next := by
  obtain ⟨hstrip, hcolumn⟩ := reply_terminal_eq_done.mp h
  obtain ⟨word, hword, hrest, -⟩ := Terminal.strip?_eq_some_iff.mp hstrip
  exact ⟨word, hword, hrest, by rw [hcolumn, Terminal.length_of_matches hword]⟩

/-! ## Entries of the combinators -/

theorem mem_trace_bind : entry ∈ ((p >>= f) cursor).trace.toList ↔
    entry ∈ (p cursor).trace.toList ∨
      ∃ a next, (p cursor).reply = .done a next ∧ entry ∈ (f a next).trace.toList := by
  show entry ∈ (bind p f cursor).trace.toList ↔ _
  unfold bind
  rcases p cursor with ⟨_ | _ | _, trace⟩ <;> simp [and_assoc]

theorem mem_trace_orElse : entry ∈ (orElse p q cursor).trace.toList ↔
    entry ∈ (p cursor).trace.toList ∨
      (p cursor).reply = .mismatch ∧ entry ∈ (q cursor).trace.toList := by
  unfold orElse
  rcases p cursor with ⟨_ | _ | _, trace⟩ <;> simp

theorem mem_trace_optional :
    entry ∈ (optional p cursor).trace.toList ↔ entry ∈ (p cursor).trace.toList := by
  unfold optional
  rcases p cursor with ⟨_ | _ | _, trace⟩ <;> rfl

theorem mem_trace_terminal {t : Terminal} : entry ∈ (terminal t cursor).trace.toList ↔
    t.strip? cursor.rest = none ∧ entry = (cursor.column, t) := by
  unfold terminal
  cases t.strip? cursor.rest <;> simp [Trace.toList]

theorem mem_trace_skip {cls : CharClass} : entry ∈ (skip cls cursor).trace.toList ↔
    entry = ((cursor.after cls).column, .character cls) :=
  List.mem_singleton

theorem mem_trace_run {cls : CharClass} : entry ∈ (run cls cursor).trace.toList ↔
    entry = ((cursor.after cls).column, .character cls) :=
  List.mem_singleton

theorem not_mem_trace_pure {a : α} : entry ∉ ((Pure.pure a : Parser α) cursor).trace.toList :=
  List.not_mem_nil

theorem not_mem_trace_tooDeep : entry ∉ ((tooDeep : Parser α) cursor).trace.toList :=
  List.not_mem_nil

end Parser

end TagQuery
