import TagQuery.Proofs.Language.Completeness
import TagQuery.Proofs.Parser.Alike

/-!
# How the reader keeps up with the textbook

The reader never takes back an operator. Where the text after one is no query, the textbook does: it
ends the query before the operator and leaves the rest to what comes next. What comes next is a
closing parenthesis or the end of the text, and the textbook misses it there, before the column
that its own attempt at the operator had reached.

* `Outcome.Agrees start x y`: both read the same, or neither reads anything, and the traces are
  alike as far as an explanation may look at them. `start` is where they began.
* `Outcome.Follows start x y`: they agree, or the second stopped early in the way described.
* `Parser.FollowsAfter cursor p q`: what is known in a proof by the length of the text that is left.
* `Parser.agrees_of_close`: they agree again once the terminal that has to come next was looked for.
-/

namespace TagQuery

variable {α β : Type} {start : Nat}

namespace Outcome

/-- The same reply, and traces that explain the same. -/
inductive Agrees (start : Nat) (x y : Outcome α) : Prop where
  | done {value : α} {next : Cursor} (hx : x.reply = .done value next)
      (hy : y.reply = .done value next) (le : start ≤ next.column)
      (alike : x.trace.Alike next.column y.trace)
  | mismatch {column : Nat} (hx : x.reply = .mismatch) (hy : y.reply = .mismatch)
      (le : start ≤ column) (reached : column ≤ x.trace.furthest)
      (alike : x.trace.Alike column y.trace)

/-- The same reply, unless the second outcome is of a query that stopped where it cannot end, before
the column from which on the traces are alike. -/
inductive Follows (start : Nat) (x y : Outcome α) : Prop where
  | agrees (h : x.Agrees start y)
  | stopped {column : Nat} {value : α} {next : Cursor} (hx : x.reply = .mismatch)
      (hy : y.reply = .done value next) (hopen : ¬Parser.Closes next.rest)
      (before : next.column < column) (le : start ≤ column) (reached : column ≤ x.trace.furthest)
      (alike : x.trace.Alike column y.trace)

variable {x y z : Outcome α} {t u : Trace}

theorem Agrees.refl_of_done {value : α} {next : Cursor} (hx : x.reply = .done value next)
    (le : start ≤ next.column) : x.Agrees start x :=
  .done hx hx le (.refl _ _)

theorem Agrees.refl_of_mismatch (hx : x.reply = .mismatch) (le : start ≤ x.trace.furthest) :
    x.Agrees start x :=
  .mismatch hx hx le (Nat.le_refl _) (.refl _ _)

theorem Agrees.after (h : x.Agrees start y) (ht : t.Alike start u) :
    (x.after t).Agrees start (y.after u) := by
  cases h with
  | done hx hy le alike => exact .done hx hy le ((ht.mono le).append alike)
  | mismatch hx hy le reached alike =>
    refine .mismatch hx hy le ?_ ((ht.mono le).append alike)
    exact Nat.le_trans reached (Nat.le_max_right _ _)

theorem Agrees.mono {earlier : Nat} (h : x.Agrees start y) (hle : earlier ≤ start) :
    x.Agrees earlier y := by
  cases h with
  | done hx hy le alike => exact .done hx hy (Nat.le_trans hle le) alike
  | mismatch hx hy le reached alike =>
    exact .mismatch hx hy (Nat.le_trans hle le) reached alike

namespace Follows

theorem after (h : x.Follows start y) (ht : t.Alike start u) :
    (x.after t).Follows start (y.after u) := by
  cases h with
  | agrees h => exact .agrees (h.after ht)
  | stopped hx hy hopen before le reached alike =>
    refine .stopped hx hy hopen before le ?_ ((ht.mono le).append alike)
    exact Nat.le_trans reached (Nat.le_max_right _ _)

theorem mono {earlier : Nat} (h : x.Follows start y) (hle : earlier ≤ start) :
    x.Follows earlier y := by
  cases h with
  | agrees h => exact .agrees (h.mono hle)
  | stopped hx hy hopen before le reached alike =>
    exact .stopped hx hy hopen before (Nat.le_trans hle le) reached alike

theorem trans_like (h : x.Follows start y) (hlike : y.Like start z) : x.Follows start z := by
  cases h with
  | agrees h =>
    cases h with
    | done hx hy le alike =>
      exact .agrees (.done hx (hlike.reply_eq ▸ hy) le (alike.trans (hlike.alike.mono le)))
    | mismatch hx hy le reached alike =>
      exact .agrees (.mismatch hx (hlike.reply_eq ▸ hy) le reached
        (alike.trans (hlike.alike.mono le)))
  | stopped hx hy hopen before le reached alike =>
    exact .stopped hx (hlike.reply_eq ▸ hy) hopen before le reached
      (alike.trans (hlike.alike.mono le))

end Follows

end Outcome

namespace Parser

variable {p q : Parser α} {cursor next : Cursor}

/-- From every place where less of the text is left, the first parser follows the second. -/
def FollowsAfter (cursor : Cursor) (p q : Parser α) : Prop :=
  ∀ next : Cursor, next.rest.length < cursor.rest.length → (p next).Follows next.column (q next)

theorem FollowsAfter.mono (h : FollowsAfter cursor p q)
    (hle : next.rest.length ≤ cursor.rest.length) : FollowsAfter next p q :=
  fun later hlater => h later (Nat.lt_of_lt_of_le hlater hle)

private theorem trace_map (f : α → β) (p : Parser α) (cursor : Cursor) (start : Nat) :
    ((p >>= fun a => Pure.pure (f a)) cursor).trace.Alike start (p cursor).trace := by
  rcases hp : p cursor with ⟨_ | _ | _, t⟩
  · rw [bind_of_done hp]
    intro column terminal _
    simp
  · rw [bind_of_mismatch hp]
    exact .refl _ _
  · rw [bind_of_tooDeep hp]
    exact .refl _ _

/-- What is made of a value that was read does not matter. -/
theorem follows_map (f : α → β) (h : (p cursor).Follows start (q cursor)) :
    ((p >>= fun a => Pure.pure (f a)) cursor).Follows start
      ((q >>= fun a => Pure.pure (f a)) cursor) := by
  have htrace : ∀ {column}, (p cursor).trace.Alike column (q cursor).trace →
      ((p >>= fun a => Pure.pure (f a)) cursor).trace.Alike column
        ((q >>= fun a => Pure.pure (f a)) cursor).trace := fun alike =>
    ((trace_map f p cursor _).trans alike).trans (trace_map f q cursor _).symm
  have hreached : ∀ {column}, column ≤ (p cursor).trace.furthest →
      column ≤ ((p >>= fun a => Pure.pure (f a)) cursor).trace.furthest := fun reached =>
    Nat.le_trans reached ((trace_map f p cursor _).symm.furthest_le reached)
  cases h with
  | agrees h =>
    cases h with
    | done hx hy le alike =>
      exact .agrees (.done (reply_bind_eq_done.mpr ⟨_, _, hx, rfl⟩)
        (reply_bind_eq_done.mpr ⟨_, _, hy, rfl⟩) le (htrace alike))
    | mismatch hx hy le reached alike =>
      exact .agrees (.mismatch (reply_bind_eq_mismatch.mpr (.inl hx))
        (reply_bind_eq_mismatch.mpr (.inl hy)) le (hreached reached) (htrace alike))
  | stopped hx hy hopen before le reached alike =>
    exact .stopped (reply_bind_eq_mismatch.mpr (.inl hx)) (reply_bind_eq_done.mpr ⟨_, _, hy, rfl⟩)
      hopen before le (hreached reached) (htrace alike)

/-- The textbook stops where it began if it finds no more and the text goes on. -/
theorem follows_orElse_pure {x : Outcome α} {a : α} (h : x.Follows start (q cursor))
    (hopen : ¬Closes cursor.rest) (hstart : cursor.column < start) :
    x.Follows start (orElse q (Pure.pure a) cursor) := by
  rcases hq : q cursor with ⟨reply, u⟩
  rw [hq] at h
  cases h with
  | agrees h =>
    cases h with
    | done hx hy le alike =>
      obtain rfl : reply = _ := hy
      rw [orElse_of_done hq]
      exact .agrees (.done hx rfl le alike)
    | mismatch hx hy le reached alike =>
      obtain rfl : reply = _ := hy
      rw [orElse_of_mismatch hq]
      refine .stopped hx rfl hopen (Nat.lt_of_lt_of_le hstart le) le reached (alike.trans ?_)
      intro column terminal _
      simp
  | stopped hx hy hnext before le reached alike =>
    obtain rfl : reply = _ := hy
    rw [orElse_of_done hq]
    exact .stopped hx rfl hnext before le reached alike

/-- A query that stopped early is found out by the terminal that has to come next. -/
theorem agrees_of_close {t : Terminal} (ht : ∀ {rest}, ¬Closes rest → t.strip? rest = none)
    (h : (p cursor).Follows start (q cursor)) :
    ((do let a ← p; terminal t; return a : Parser α) cursor).Agrees start
      ((do let a ← q; terminal t; return a : Parser α) cursor) := by
  rcases hp : p cursor with ⟨replyp, traceOfP⟩
  rcases hq : q cursor with ⟨replyq, traceOfQ⟩
  rw [hp, hq] at h
  cases h with
  | agrees h =>
    cases h with
    | @done a next hx hy le alike =>
      obtain rfl : replyp = _ := hx
      obtain rfl : replyq = _ := hy
      rw [bind_of_done hp, bind_of_done hq]
      refine Outcome.Agrees.mono (Outcome.Agrees.after ?_ alike) le
      cases hstrip : t.strip? next.rest with
      | some rest =>
        rw [bind_of_done (terminal_of_some hstrip)]
        exact .refl_of_done rfl (Nat.le_add_right _ _)
      | none =>
        rw [bind_of_mismatch (terminal_of_none hstrip)]
        exact .refl_of_mismatch rfl (Nat.le_refl _)
    | mismatch hx hy le reached alike =>
      obtain rfl : replyp = _ := hx
      obtain rfl : replyq = _ := hy
      rw [bind_of_mismatch hp, bind_of_mismatch hq]
      exact .mismatch rfl rfl le reached alike
  | @stopped column a next hx hy hopen before le reached alike =>
    obtain rfl : replyp = _ := hx
    obtain rfl : replyq = _ := hy
    rw [bind_of_mismatch hp, bind_of_done hq, bind_of_mismatch (terminal_of_none (ht hopen))]
    refine .mismatch rfl rfl le reached (alike.trans ?_)
    have hmissed := (Trace.Alike.refl column traceOfQ).append (Trace.missed_alike_empty t before)
    refine (hmissed.trans fun _ _ _ => ?_).symm
    simp

end Parser

end TagQuery
