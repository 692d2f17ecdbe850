import TagQuery.Parser
import TagQuery.Proofs.Text.Reading

/-!
# Replies of the combinators

What each combinator replies, by the replies of its parts. The trace plays no role here.

* `reply_*_eq_done`, `reply_*_eq_mismatch`: when a combinator gives a value, and when it gives a
  mismatch. Read from left to right they take a reply apart.
* `reply_*_eq_tooDeep`: the notice that a query nests too deep goes through every combinator.
* `Reads p text value rest`: the parser reads `value` at the start of `text` and leaves `rest`,
  whatever the column. `Misses p text`: it gives a mismatch. Their lemmas put replies together.
-/

namespace TagQuery.Parser

variable {α β : Type} {p q : Parser α} {f : α → Parser β} {cursor next : Cursor}

/-! ## Taking replies apart -/

theorem reply_pure_eq_done {a b : α} :
    ((Pure.pure a : Parser α) cursor).reply = .done b next ↔ a = b ∧ cursor = next := by
  show Reply.done a cursor = .done b next ↔ _
  rw [Reply.done.injEq]

theorem reply_bind_eq_done {b : β} :
    ((p >>= f) cursor).reply = .done b next ↔
      ∃ a middle, (p cursor).reply = .done a middle ∧ (f a middle).reply = .done b next := by
  show (bind p f cursor).reply = _ ↔ _
  unfold bind
  rcases p cursor with ⟨_ | _ | _, trace⟩ <;> simp [Outcome.after, and_assoc]

theorem reply_bind_eq_mismatch :
    ((p >>= f) cursor).reply = .mismatch ↔
      (p cursor).reply = .mismatch ∨
        ∃ a middle, (p cursor).reply = .done a middle ∧ (f a middle).reply = .mismatch := by
  show (bind p f cursor).reply = _ ↔ _
  unfold bind
  rcases p cursor with ⟨_ | _ | _, trace⟩ <;> simp [Outcome.after, and_assoc]

theorem reply_orElse_eq_done {a : α} :
    (orElse p q cursor).reply = .done a next ↔
      (p cursor).reply = .done a next ∨
        (p cursor).reply = .mismatch ∧ (q cursor).reply = .done a next := by
  unfold orElse
  rcases p cursor with ⟨_ | _ | _, trace⟩ <;> simp [Outcome.after]

theorem reply_orElse_eq_mismatch :
    (orElse p q cursor).reply = .mismatch ↔
      (p cursor).reply = .mismatch ∧ (q cursor).reply = .mismatch := by
  unfold orElse
  rcases p cursor with ⟨_ | _ | _, trace⟩ <;> simp [Outcome.after]

theorem reply_optional_eq_done {found : Option α} :
    (optional p cursor).reply = .done found next ↔
      (∃ a, (p cursor).reply = .done a next ∧ found = some a) ∨
        (p cursor).reply = .mismatch ∧ found = none ∧ next = cursor := by
  unfold optional
  rcases p cursor with ⟨_ | _ | _, trace⟩ <;> simp [eq_comm, and_comm, and_assoc]

theorem reply_terminal_eq_done {t : Terminal} {u : Unit} :
    (terminal t cursor).reply = .done u next ↔
      t.strip? cursor.rest = some next.rest ∧ next.column = cursor.column + t.width := by
  unfold terminal
  cases t.strip? cursor.rest with
  | none => simp
  | some rest =>
    obtain ⟨column, rest'⟩ := next
    simp [eq_comm, and_comm]

theorem reply_terminal_eq_mismatch {t : Terminal} :
    (terminal t cursor).reply = .mismatch ↔ t.strip? cursor.rest = none := by
  unfold terminal
  cases t.strip? cursor.rest <;> simp

theorem reply_skip_eq_done {cls : CharClass} {u : Unit} :
    (skip cls cursor).reply = .done u next ↔ cursor.after cls = next := by
  simp [skip]

theorem reply_run_eq_done {cls : CharClass} {value : String} :
    (run cls cursor).reply = .done value next ↔
      cursor.rest.takeWhile cls.contains ≠ [] ∧
        String.ofList (cursor.rest.takeWhile cls.contains) = value ∧ cursor.after cls = next := by
  simp only [run, List.isEmpty_iff, ne_eq]
  split <;> simp_all

theorem reply_run_eq_mismatch {cls : CharClass} :
    (run cls cursor).reply = .mismatch ↔ cursor.rest.takeWhile cls.contains = [] := by
  simp only [run, List.isEmpty_iff]
  split <;> simp_all

/-! ## Running out of levels

No alternative mends the notice that a query nests too deep. -/

theorem reply_bind_eq_tooDeep {column : Nat} :
    ((p >>= f) cursor).reply = .tooDeep column ↔
      (p cursor).reply = .tooDeep column ∨
        ∃ a middle, (p cursor).reply = .done a middle ∧ (f a middle).reply = .tooDeep column := by
  show (bind p f cursor).reply = _ ↔ _
  unfold bind
  rcases p cursor with ⟨_ | _ | _, trace⟩ <;> simp [Outcome.after, and_assoc]

theorem reply_orElse_eq_tooDeep {column : Nat} :
    (orElse p q cursor).reply = .tooDeep column ↔
      (p cursor).reply = .tooDeep column ∨
        (p cursor).reply = .mismatch ∧ (q cursor).reply = .tooDeep column := by
  unfold orElse
  rcases p cursor with ⟨_ | _ | _, trace⟩ <;> simp [Outcome.after]

theorem reply_optional_eq_tooDeep {column : Nat} :
    (optional p cursor).reply = .tooDeep column ↔ (p cursor).reply = .tooDeep column := by
  unfold optional
  rcases p cursor with ⟨_ | _ | _, trace⟩ <;> simp

/-! ## Putting replies together -/

/-- The parser reads `value` at the start of `text` and leaves `rest`. -/
def Reads (p : Parser α) (text : List Char) (value : α) (rest : List Char) : Prop :=
  ∀ column, ∃ next, (p ⟨column, text⟩).reply = .done value ⟨next, rest⟩

/-- The text is not of the form that the parser looks for. -/
def Misses (p : Parser α) (text : List Char) : Prop :=
  ∀ column, (p ⟨column, text⟩).reply = .mismatch

variable {text middle rest : List Char} {a : α} {b : β}

/-- A text is read in one way at most. -/
theorem Reads.unique {a' : α} {rest' : List Char} (h : Reads p text a rest)
    (h' : Reads p text a' rest') : a = a' ∧ rest = rest' := by
  obtain ⟨next, hnext⟩ := h 0
  obtain ⟨next', hnext'⟩ := h' 0
  cases hnext.symm.trans hnext'
  exact ⟨rfl, rfl⟩

theorem Reads.pure (a : α) (text : List Char) : Reads (Pure.pure a) text a text :=
  fun column => ⟨column, reply_pure_eq_done.mpr ⟨rfl, rfl⟩⟩

theorem Reads.bind (hp : Reads p text a middle) (hf : Reads (f a) middle b rest) :
    Reads (p >>= f) text b rest := by
  intro column
  obtain ⟨next, hnext⟩ := hp column
  obtain ⟨last, hlast⟩ := hf next
  exact ⟨last, reply_bind_eq_done.mpr ⟨a, _, hnext, hlast⟩⟩

theorem Reads.bind_misses (hp : Reads p text a middle) (hf : Misses (f a) middle) :
    Misses (p >>= f) text := by
  intro column
  obtain ⟨next, hnext⟩ := hp column
  exact reply_bind_eq_mismatch.mpr (.inr ⟨a, _, hnext, hf next⟩)

theorem Misses.bind (hp : Misses p text) : Misses (p >>= f) text :=
  fun column => reply_bind_eq_mismatch.mpr (.inl (hp column))

theorem Reads.orElse (hp : Reads p text a rest) : Reads (orElse p q) text a rest := by
  intro column
  obtain ⟨next, hnext⟩ := hp column
  exact ⟨next, reply_orElse_eq_done.mpr (.inl hnext)⟩

theorem Misses.orElse_reads (hp : Misses p text) (hq : Reads q text a rest) :
    Reads (orElse p q) text a rest := by
  intro column
  obtain ⟨next, hnext⟩ := hq column
  exact ⟨next, reply_orElse_eq_done.mpr (.inr ⟨hp column, hnext⟩)⟩

theorem Misses.orElse (hp : Misses p text) (hq : Misses q text) : Misses (orElse p q) text :=
  fun column => reply_orElse_eq_mismatch.mpr ⟨hp column, hq column⟩

theorem Reads.optional (hp : Reads p text a rest) : Reads (optional p) text (some a) rest := by
  intro column
  obtain ⟨next, hnext⟩ := hp column
  exact ⟨next, reply_optional_eq_done.mpr (.inl ⟨a, hnext, rfl⟩)⟩

theorem Misses.optional (hp : Misses p text) : Reads (optional p) text none text :=
  fun column => ⟨column, reply_optional_eq_done.mpr (.inr ⟨hp column, rfl, rfl⟩)⟩

theorem reads_terminal {t : Terminal} (h : t.strip? text = some rest) :
    Reads (terminal t) text () rest :=
  fun _ => ⟨_, reply_terminal_eq_done.mpr ⟨h, rfl⟩⟩

theorem misses_terminal {t : Terminal} (h : t.strip? text = none) : Misses (terminal t) text :=
  fun _ => reply_terminal_eq_mismatch.mpr h

theorem after_run {cls : CharClass} {run : List Char} (hrun : ∀ c ∈ run, cls.contains c)
    (hrest : ∀ c ∈ rest.head?, ¬cls.contains c) (column : Nat) :
    (Cursor.mk column (run ++ rest)).after cls = ⟨column + run.length, rest⟩ := by
  unfold Cursor.after
  rw [Text.takeWhile_run hrun hrest, Text.dropWhile_run hrun hrest]

theorem takeWhile_of_head {cls : CharClass} (h : ∀ c ∈ text.head?, ¬cls.contains c) :
    text.takeWhile cls.contains = [] := by
  cases text with
  | nil => rfl
  | cons c text => exact List.takeWhile_cons_of_neg (h c rfl)

theorem after_of_head {cls : CharClass} (h : ∀ c ∈ cursor.rest.head?, ¬cls.contains c) :
    cursor.after cls = cursor := by
  have hempty : ∀ c ∈ ([] : List Char), cls.contains c := nofun
  exact after_run hempty h cursor.column

theorem after_cons {cls : CharClass} {c : Char} (hc : cls.contains c) (column : Nat)
    (rest : List Char) :
    (Cursor.mk column (c :: rest)).after cls = (Cursor.mk (column + 1) rest).after cls := by
  unfold Cursor.after
  rw [List.takeWhile_cons_of_pos hc, List.dropWhile_cons_of_pos hc, List.length_cons]
  simp only [Cursor.mk.injEq, and_true]
  omega

theorem reads_skip {cls : CharClass} {run : List Char} (hrun : ∀ c ∈ run, cls.contains c)
    (hrest : ∀ c ∈ rest.head?, ¬cls.contains c) : Reads (skip cls) (run ++ rest) () rest :=
  fun column => ⟨_, reply_skip_eq_done.mpr (after_run hrun hrest column)⟩

theorem reads_run {cls : CharClass} {run : List Char} (hne : run ≠ [])
    (hrun : ∀ c ∈ run, cls.contains c) (hrest : ∀ c ∈ rest.head?, ¬cls.contains c) :
    Reads (Parser.run cls) (run ++ rest) (String.ofList run) rest := by
  have htake := Text.takeWhile_run hrun hrest
  refine fun column => ⟨column + run.length, reply_run_eq_done.mpr ⟨?_, ?_, ?_⟩⟩
  · rwa [htake]
  · rw [htake]
  · exact after_run hrun hrest column

theorem misses_run {cls : CharClass} (h : ∀ c ∈ text.head?, ¬cls.contains c) :
    Misses (Parser.run cls) text :=
  fun _ => reply_run_eq_mismatch.mpr (takeWhile_of_head h)

end TagQuery.Parser
