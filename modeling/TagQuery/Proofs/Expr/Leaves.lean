import TagQuery.Expr

/-!
# The tags of an expression, round by round

* `Expr.tagsOf_eq_flatMap`, `Expr.tags_eq_leaves`: the list gathered from pending expressions is that
  of their leaves.
* `Visit.step_leaves`, `Visit.step_remaining`: a round changes nothing about what will have been
  listed in the end, and leaves one round less to go.
* `Visit.run_size`, `Visit.pending_run_ne_nil`: so the visit of an expression ends after exactly as
  many rounds as it has nodes, with its leaves listed.
-/

namespace TagQuery.Expr

theorem tagsOf_eq_flatMap (pending : List Expr) : tagsOf pending = pending.flatMap leaves := by
  induction pending using tagsOf.induct with
  | case1 => simp [tagsOf]
  | case2 t pending ih => simp [tagsOf, leaves, ih]
  | case3 operand pending ih => simp [tagsOf, leaves, ih]
  | case4 op left right pending ih => simp [tagsOf, leaves, ih]

theorem tags_eq_leaves (e : Expr) : e.tags = e.leaves := by
  simp [tags, tagsOf_eq_flatMap]

theorem size_pos (e : Expr) : 0 < e.size := by
  cases e <;> simp [size]

/-! ## Rounds -/

namespace Visit

theorem step_leaves (visit : Visit) : visit.step.leaves = visit.leaves := by
  rcases visit with ⟨listed, _ | ⟨_ | _ | _, pending⟩⟩ <;> simp [step, leaves, Expr.leaves]

theorem step_remaining (visit : Visit) : visit.step.remaining = visit.remaining - 1 := by
  rcases visit with ⟨listed, _ | ⟨t | operand | ⟨op, left, right⟩, pending⟩⟩
  · rfl
  · simp [step, remaining, size]
  · simp [step, remaining, size]
  · simp only [step, remaining, size, List.foldr_cons]
    omega

theorem run_leaves (rounds : Nat) (visit : Visit) : (run rounds visit).leaves = visit.leaves := by
  induction rounds generalizing visit with
  | zero => rfl
  | succ rounds ih => rw [run, ih, step_leaves]

theorem run_remaining (rounds : Nat) (visit : Visit) :
    (run rounds visit).remaining = visit.remaining - rounds := by
  induction rounds generalizing visit with
  | zero => rfl
  | succ rounds ih =>
    rw [run, ih, step_remaining]
    omega

/-- Rounds are to go exactly while something is pending. -/
theorem remaining_eq_zero {visit : Visit} : visit.remaining = 0 ↔ visit.pending = [] := by
  rcases visit with ⟨listed, _ | ⟨e, pending⟩⟩
  · simp [remaining]
  · have hpos := e.size_pos
    simp [remaining]
    omega

theorem start_remaining (e : Expr) : (start e).remaining = e.size := by
  simp [start, remaining]

theorem start_leaves (e : Expr) : (start e).leaves = e.leaves := by
  simp [start, leaves]

/-- The visit of an expression ends after as many rounds as the expression has nodes. -/
theorem run_size (e : Expr) : run e.size (start e) = ⟨e.leaves, []⟩ := by
  have hpending : (run e.size (start e)).pending = [] :=
    remaining_eq_zero.mp (by rw [run_remaining, start_remaining, Nat.sub_self])
  have hleaves := run_leaves e.size (start e)
  rw [start_leaves, leaves, hpending, List.flatMap_nil, List.append_nil] at hleaves
  rw [← hleaves, ← hpending]

/-- It does not end before. -/
theorem pending_run_ne_nil {e : Expr} {rounds : Nat} (h : rounds < e.size) :
    (run rounds (start e)).pending ≠ [] := by
  refine fun hpending => ?_
  have hremaining := remaining_eq_zero.mpr hpending
  rw [run_remaining, start_remaining] at hremaining
  omega

end Visit

end TagQuery.Expr
