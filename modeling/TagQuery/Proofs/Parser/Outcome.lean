import TagQuery.Expr.Parser
import TagQuery.Proofs.Parser.Reply
import TagQuery.Proofs.Terminal

/-!
# Outcomes of the combinators

What a combinator comes to, trace included, when the outcome of its first part is known
(`bind_of_done`, `orElse_of_mismatch` and so on), and two properties of parsers that go through the
combinators:

* `Forward p`: the parser only passes over text. `Consumes p`: over a character of it at least.
* `Flat p`: the parser never counts levels.
-/

namespace TagQuery

variable {α β : Type}

@[simp] theorem Outcome.after_trace (x : Outcome α) (t : Trace) :
    (x.after t).trace = t ++ x.trace := rfl

namespace Parser

variable {p q : Parser α} {f : α → Parser β} {cursor next : Cursor} {trace : Trace} {a : α}

@[simp] theorem pure_apply (a : α) (cursor : Cursor) :
    (Pure.pure a : Parser α) cursor = ⟨.done a cursor, .empty⟩ := rfl

/-! ## By the outcome of the first part -/

theorem bind_of_done (h : p cursor = ⟨.done a next, trace⟩) :
    (p >>= f) cursor = (f a next).after trace := by
  show Parser.bind p f cursor = _
  unfold Parser.bind
  rw [h]

theorem bind_of_mismatch (h : p cursor = ⟨.mismatch, trace⟩) :
    (p >>= f) cursor = ⟨.mismatch, trace⟩ := by
  show Parser.bind p f cursor = _
  unfold Parser.bind
  rw [h]

theorem bind_of_tooDeep {column : Nat} (h : p cursor = ⟨.tooDeep column, trace⟩) :
    (p >>= f) cursor = ⟨.tooDeep column, trace⟩ := by
  show Parser.bind p f cursor = _
  unfold Parser.bind
  rw [h]

theorem orElse_of_done (h : p cursor = ⟨.done a next, trace⟩) :
    Parser.orElse p q cursor = ⟨.done a next, trace⟩ := by
  unfold Parser.orElse
  rw [h]

theorem orElse_of_mismatch (h : p cursor = ⟨.mismatch, trace⟩) :
    Parser.orElse p q cursor = (q cursor).after trace := by
  unfold Parser.orElse
  rw [h]

theorem orElse_of_tooDeep {column : Nat} (h : p cursor = ⟨.tooDeep column, trace⟩) :
    Parser.orElse p q cursor = ⟨.tooDeep column, trace⟩ := by
  unfold Parser.orElse
  rw [h]

theorem optional_of_done (h : p cursor = ⟨.done a next, trace⟩) :
    Parser.optional p cursor = ⟨.done (some a) next, trace⟩ := by
  unfold Parser.optional
  rw [h]

theorem optional_of_mismatch (h : p cursor = ⟨.mismatch, trace⟩) :
    Parser.optional p cursor = ⟨.done none cursor, trace⟩ := by
  unfold Parser.optional
  rw [h]

theorem optional_of_tooDeep {column : Nat} (h : p cursor = ⟨.tooDeep column, trace⟩) :
    Parser.optional p cursor = ⟨.tooDeep column, trace⟩ := by
  unfold Parser.optional
  rw [h]

theorem terminal_of_some {t : Terminal} {rest : List Char} (h : t.strip? cursor.rest = some rest) :
    terminal t cursor = ⟨.done () ⟨cursor.column + t.width, rest⟩, .empty⟩ := by
  unfold terminal
  rw [h]

theorem terminal_of_none {t : Terminal} (h : t.strip? cursor.rest = none) :
    terminal t cursor = ⟨.mismatch, .missed cursor.column t⟩ := by
  unfold terminal
  rw [h]

end Parser

/-! ## Passing over text -/

/-- The second place lies after the first in the same text, or is the same. -/
structure Cursor.Reaches (cursor next : Cursor) : Prop where
  column_le : cursor.column ≤ next.column
  total : next.column + next.rest.length = cursor.column + cursor.rest.length

theorem Cursor.Reaches.refl (cursor : Cursor) : cursor.Reaches cursor :=
  ⟨Nat.le_refl _, rfl⟩

theorem Cursor.Reaches.trans {a b c : Cursor} (hab : a.Reaches b) (hbc : b.Reaches c) :
    a.Reaches c :=
  ⟨Nat.le_trans hab.column_le hbc.column_le, hbc.total.trans hab.total⟩

theorem Cursor.Reaches.length_lt {cursor next : Cursor} (h : cursor.Reaches next)
    (hlt : cursor.column < next.column) : next.rest.length < cursor.rest.length := by
  have htotal := h.total
  omega

theorem Cursor.reaches_after (cursor : Cursor) (cls : CharClass) :
    cursor.Reaches (cursor.after cls) := by
  have hlength := congrArg List.length
    (List.takeWhile_append_dropWhile (p := cls.contains) (l := cursor.rest))
  rw [List.length_append] at hlength
  refine ⟨Nat.le_add_right _ _, ?_⟩
  simp only [Cursor.after]
  omega

namespace Parser

variable {p q : Parser α} {f : α → Parser β}

/-- Where the parser ends it has passed over what it read, and over nothing else. -/
def Forward (p : Parser α) : Prop :=
  ∀ cursor a next, (p cursor).reply = .done a next → cursor.Reaches next

/-- The parser goes forward, and not without reading a character. -/
def Consumes (p : Parser α) : Prop :=
  ∀ cursor a next, (p cursor).reply = .done a next →
    cursor.Reaches next ∧ cursor.column < next.column

theorem Consumes.forward (hp : Consumes p) : Forward p :=
  fun cursor a next h => (hp cursor a next h).1

theorem forward_pure (a : α) : Forward (Pure.pure a : Parser α) := by
  intro cursor b next h
  obtain ⟨-, rfl⟩ := reply_pure_eq_done.mp h
  exact .refl _

theorem Forward.bind (hp : Forward p) (hf : ∀ a, Forward (f a)) : Forward (p >>= f) := by
  intro cursor b next h
  obtain ⟨a, middle, ha, hb⟩ := reply_bind_eq_done.mp h
  exact (hp cursor a middle ha).trans (hf a middle b next hb)

theorem Forward.optional (hp : Forward p) : Forward (optional p) := by
  intro cursor found next h
  rcases reply_optional_eq_done.mp h with ⟨a, h, -⟩ | ⟨-, -, rfl⟩
  · exact hp cursor a next h
  · exact .refl _

theorem forward_terminal (t : Terminal) : Forward (terminal t) := by
  intro cursor u next h
  obtain ⟨hstrip, hcolumn⟩ := reply_terminal_eq_done.mp h
  obtain ⟨word, hword, hrest, -⟩ := Terminal.strip?_eq_some_iff.mp hstrip
  have hwidth := Terminal.length_of_matches hword
  have hlength := congrArg List.length hrest
  rw [List.length_append] at hlength
  exact ⟨by omega, by omega⟩

theorem forward_skip (cls : CharClass) : Forward (skip cls) := by
  intro cursor u next h
  rw [← reply_skip_eq_done.mp h]
  exact cursor.reaches_after cls

theorem forward_run (cls : CharClass) : Forward (run cls) := by
  intro cursor text next h
  rw [← (reply_run_eq_done.mp h).2.2]
  exact cursor.reaches_after cls

theorem Consumes.bind (hp : Consumes p) (hf : ∀ a, Forward (f a)) : Consumes (p >>= f) := by
  intro cursor b next h
  obtain ⟨a, middle, ha, hb⟩ := reply_bind_eq_done.mp h
  obtain ⟨hreaches, hlt⟩ := hp cursor a middle ha
  have hthen := hf a middle b next hb
  exact ⟨hreaches.trans hthen, Nat.lt_of_lt_of_le hlt hthen.column_le⟩

theorem Forward.bind_consumes (hp : Forward p) (hf : ∀ a, Consumes (f a)) : Consumes (p >>= f) := by
  intro cursor b next h
  obtain ⟨a, middle, ha, hb⟩ := reply_bind_eq_done.mp h
  have hfirst := hp cursor a middle ha
  obtain ⟨hreaches, hlt⟩ := hf a middle b next hb
  exact ⟨hfirst.trans hreaches, Nat.lt_of_le_of_lt hfirst.column_le hlt⟩

theorem Consumes.orElse (hp : Consumes p) (hq : Consumes q) : Consumes (orElse p q) := by
  intro cursor a next h
  rcases reply_orElse_eq_done.mp h with h | ⟨-, h⟩
  · exact hp cursor a next h
  · exact hq cursor a next h

theorem consumes_terminal {t : Terminal} (ht : 0 < t.width) : Consumes (terminal t) := by
  intro cursor u next h
  have hcolumn := (reply_terminal_eq_done.mp h).2
  exact ⟨forward_terminal t cursor u next h, by omega⟩

/-! ## Levels -/

/-- The parser never gives the notice that the query nests too deep. -/
def Flat (p : Parser α) : Prop :=
  ∀ cursor column, (p cursor).reply ≠ .tooDeep column

theorem flat_pure (a : α) : Flat (Pure.pure a : Parser α) :=
  fun _ _ => nofun

theorem Flat.bind (hp : Flat p) (hf : ∀ a, Flat (f a)) : Flat (p >>= f) := by
  intro cursor column h
  rcases hcursor : p cursor with ⟨a | _ | deep, trace⟩
  · rw [bind_of_done hcursor] at h
    exact hf _ _ _ h
  · rw [bind_of_mismatch hcursor] at h
    cases h
  · exact hp cursor deep (by rw [hcursor])

theorem Flat.orElse (hp : Flat p) (hq : Flat q) : Flat (orElse p q) := by
  intro cursor column h
  rcases hcursor : p cursor with ⟨a | _ | deep, trace⟩
  · rw [orElse_of_done hcursor] at h
    cases h
  · rw [orElse_of_mismatch hcursor] at h
    exact hq _ _ h
  · exact hp cursor deep (by rw [hcursor])

theorem Flat.optional (hp : Flat p) : Flat (optional p) := by
  intro cursor column h
  rcases hcursor : p cursor with ⟨a | _ | deep, trace⟩
  · rw [optional_of_done hcursor] at h
    cases h
  · rw [optional_of_mismatch hcursor] at h
    cases h
  · exact hp cursor deep (by rw [hcursor])

theorem flat_terminal (t : Terminal) : Flat (terminal t) := by
  intro cursor column h
  unfold terminal at h
  split at h <;> cases h

theorem flat_skip (cls : CharClass) : Flat (skip cls) :=
  fun _ _ => nofun

theorem flat_run (cls : CharClass) : Flat (run cls) := by
  intro cursor column h
  simp only [run] at h
  split at h <;> cases h

end Parser

end TagQuery
