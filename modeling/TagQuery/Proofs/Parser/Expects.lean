import TagQuery.Proofs.Parser.Trace

/-!
# What may stand where it was missed

* `Terminal.CanFollow B t read`: every text that the terminal stands for makes with `read` before it
  a text with the property `B`.
* `Parser.Expects p cursor B`: this holds of all that the parser misses and of the text up to where
  it is missed. It goes through the combinators, with what was read so far put in front.
-/

namespace TagQuery

variable {α β : Type} {B B' : List Char → Prop}

/-- The text in front of any spelling of the terminal has a property. -/
def Terminal.CanFollow (B : List Char → Prop) (t : Terminal) (read : List Char) : Prop :=
  ∀ word, t.Matches word → B (read ++ word)

namespace Parser

/-- What the parser misses could have stood where it was missed. -/
def Expects (p : Parser α) (cursor : Cursor) (B : List Char → Prop) : Prop :=
  ∀ column t, (column, t) ∈ (p cursor).trace.toList → cursor.UpTo column (t.CanFollow B)

/-! ## The combinators -/

variable {p q : Parser α} {f : α → Parser β} {cursor : Cursor} {cls : CharClass}

theorem Expects.mono (h : p.Expects cursor B) (hB : ∀ {read}, B read → B' read) :
    p.Expects cursor B' :=
  fun column t hmem => (h column t hmem).mono fun hfollow word hword => hB (hfollow word hword)

theorem expects_pure (a : α) : (Pure.pure a : Parser α).Expects cursor B :=
  fun _ _ hmem => absurd hmem not_mem_trace_pure

theorem expects_tooDeep : (tooDeep : Parser α).Expects cursor B :=
  fun _ _ hmem => absurd hmem not_mem_trace_tooDeep

theorem Expects.bind (hp : p.Expects cursor B)
    (hf : ∀ a next, (p cursor).reply = .done a next →
      ∃ first, cursor.Passes first next ∧ (f a).Expects next fun read => B (first ++ read)) :
    (p >>= f).Expects cursor B := by
  intro column t hmem
  rcases mem_trace_bind.mp hmem with hmem | ⟨a, next, ha, hmem⟩
  · exact hp column t hmem
  · obtain ⟨first, hfirst, hthen⟩ := hf a next ha
    refine hfirst.upTo (hthen column t hmem) fun hfollow word hword => ?_
    rw [List.append_assoc]
    exact hfollow word hword

theorem Expects.orElse (hp : p.Expects cursor B) (hq : q.Expects cursor B) :
    (orElse p q).Expects cursor B := by
  intro column t hmem
  rcases mem_trace_orElse.mp hmem with hmem | ⟨-, hmem⟩
  · exact hp column t hmem
  · exact hq column t hmem

theorem Expects.optional (hp : p.Expects cursor B) : (optional p).Expects cursor B :=
  fun column t hmem => hp column t (mem_trace_optional.mp hmem)

theorem expects_terminal {t : Terminal} (h : ∀ word, t.Matches word → B word) :
    (terminal t).Expects cursor B := by
  intro column missed hmem
  obtain ⟨-, hentry⟩ := mem_trace_terminal.mp hmem
  cases hentry
  exact .here h

/-- A class is missed after a run of it, which one more of its characters would make longer. -/
theorem upTo_after (h : ∀ body, body ≠ [] → (∀ c ∈ body, cls.contains c) → B body) :
    cursor.UpTo (cursor.after cls).column ((Terminal.character cls).CanFollow B) := by
  refine ⟨_, _, cursor.passes_after cls, rfl, ?_⟩
  rintro _ ⟨c, hc, rfl⟩
  refine h _ (List.append_ne_nil_of_right_ne_nil _ (List.cons_ne_nil c [])) fun d hd => ?_
  rcases List.mem_append.mp hd with hd | hd
  · exact List.all_eq_true.mp List.all_takeWhile d hd
  · rw [List.mem_singleton.mp hd]
    exact hc

theorem expects_skip (h : ∀ body, body ≠ [] → (∀ c ∈ body, cls.contains c) → B body) :
    (skip cls).Expects cursor B := by
  intro column t hmem
  cases mem_trace_skip.mp hmem
  exact upTo_after h

theorem expects_run (h : ∀ body, body ≠ [] → (∀ c ∈ body, cls.contains c) → B body) :
    (run cls).Expects cursor B := by
  intro column t hmem
  cases mem_trace_run.mp hmem
  exact upTo_after h

/-- What is made of a value that was read does not matter. -/
theorem Expects.bind_pure {g : α → β} (hp : p.Expects cursor B) :
    (p >>= fun a => Pure.pure (g a)).Expects cursor B := by
  intro column t hmem
  rcases mem_trace_bind.mp hmem with hmem | ⟨a, next, -, hmem⟩
  · exact hp column t hmem
  · exact absurd hmem not_mem_trace_pure

end Parser

end TagQuery
