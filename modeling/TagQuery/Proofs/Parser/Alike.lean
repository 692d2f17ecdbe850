import TagQuery.Proofs.Parser.Outcome
import TagQuery.Rejection

/-!
# Traces up to their order

An explanation looks at what was missed at the furthest column. So the order of a trace does not
matter, nor how often an entry occurs in it, nor any entry before a column that something else
reaches.

* `Trace.Alike start t u`: from the column `start` on the traces have the same entries.
  `Rejection.ofTrace_congr`: then both explain a mismatch alike, if they get as far as this column.
* `Outcome.Like start x y`: the same reply with traces that are alike.
* `Parser.Like p q`: the parsers come to the same from every place. Every combinator preserves this,
  and alternatives that begin alike may share their beginning (`Parser.orElse_bind_like`).
-/

namespace TagQuery

variable {α β : Type} {start : Nat}

/-! ## Traces -/

namespace Trace

variable {t t' u u' v : Trace} {column : Nat} {terminal : Terminal}

@[simp] theorem toList_empty : Trace.empty.toList = [] := rfl

@[simp] theorem toList_missed (column : Nat) (terminal : Terminal) :
    (Trace.missed column terminal).toList = [(column, terminal)] := rfl

/-- From a column on, the same terminals were missed. -/
def Alike (start : Nat) (t u : Trace) : Prop :=
  ∀ column terminal, start ≤ column →
    ((column, terminal) ∈ t.toList ↔ (column, terminal) ∈ u.toList)

theorem Alike.refl (start : Nat) (t : Trace) : t.Alike start t :=
  fun _ _ _ => Iff.rfl

theorem Alike.symm (h : t.Alike start u) : u.Alike start t :=
  fun column terminal hstart => (h column terminal hstart).symm

theorem Alike.trans (htu : t.Alike start u) (huv : u.Alike start v) : t.Alike start v :=
  fun column terminal hstart => (htu column terminal hstart).trans (huv column terminal hstart)

theorem Alike.mono {later : Nat} (h : t.Alike start u) (hlater : start ≤ later) :
    t.Alike later u :=
  fun column terminal hcolumn => h column terminal (Nat.le_trans hlater hcolumn)

theorem Alike.append (ht : t.Alike start t') (hu : u.Alike start u') :
    (t ++ u).Alike start (t' ++ u') := by
  intro column terminal hcolumn
  rw [toList_append, toList_append, List.mem_append, List.mem_append,
    ht column terminal hcolumn, hu column terminal hcolumn]

theorem Alike.empty_append (ht : t.Alike start empty) (hu : u.Alike start u') :
    (t ++ u).Alike start u' :=
  (ht.append hu).trans fun _ _ _ => by simp

/-- A terminal missed before a column does not matter from there on. -/
theorem missed_alike_empty (terminal : Terminal) (h : column < start) :
    (missed column terminal).Alike start empty := by
  intro found other hfound
  have hne : found ≠ column := by omega
  simp [hne]

/-- Nor does a trace that ends before it. -/
theorem alike_empty (h : ∀ column terminal, (column, terminal) ∈ t.toList → column < start) :
    t.Alike start empty := by
  intro column terminal hcolumn
  refine ⟨fun hmem => ?_, nofun⟩
  exact absurd (h column terminal hmem) (Nat.not_lt.mpr hcolumn)

theorem le_furthest (h : (column, terminal) ∈ t.toList) : column ≤ t.furthest := by
  induction t with
  | empty => cases h
  | missed found other =>
    obtain ⟨rfl, -⟩ := Prod.mk.inj (List.mem_singleton.mp h)
    exact Nat.le_refl _
  | append a b iha ihb =>
    rcases List.mem_append.mp h with h | h
    · exact Nat.le_trans (iha h) (Nat.le_max_left _ _)
    · exact Nat.le_trans (ihb h) (Nat.le_max_right _ _)

/-- Something was missed at the furthest column, unless this is the first. -/
theorem exists_mem_furthest (h : 0 < t.furthest) :
    ∃ terminal, (t.furthest, terminal) ∈ t.toList := by
  induction t with
  | empty => cases h
  | missed found other => exact ⟨other, List.mem_singleton.mpr rfl⟩
  | append a b iha ihb =>
    simp only [furthest, toList, List.mem_append] at h ⊢
    rcases Nat.le_total a.furthest b.furthest with hle | hle
    · rw [Nat.max_eq_right hle] at h ⊢
      obtain ⟨terminal, hterminal⟩ := ihb h
      exact ⟨terminal, .inr hterminal⟩
    · rw [Nat.max_eq_left hle] at h ⊢
      obtain ⟨terminal, hterminal⟩ := iha h
      exact ⟨terminal, .inl hterminal⟩

/-- If anything was missed, something was at the furthest column. -/
theorem exists_mem_furthest_of_mem (h : (column, terminal) ∈ t.toList) :
    ∃ terminal, (t.furthest, terminal) ∈ t.toList := by
  rcases Nat.eq_zero_or_pos t.furthest with hzero | hpos
  · have hle := le_furthest h
    obtain rfl : column = t.furthest := by omega
    exact ⟨terminal, h⟩
  · exact exists_mem_furthest hpos

theorem Alike.furthest_le (h : t.Alike start u) (ht : start ≤ t.furthest) :
    t.furthest ≤ u.furthest := by
  rcases Nat.eq_zero_or_pos t.furthest with hzero | hpos
  · rw [hzero]
    exact Nat.zero_le _
  · obtain ⟨terminal, hterminal⟩ := exists_mem_furthest hpos
    exact le_furthest ((h _ _ ht).mp hterminal)

theorem Alike.furthest_eq (h : t.Alike start u) (ht : start ≤ t.furthest) :
    t.furthest = u.furthest := by
  have hle := h.furthest_le ht
  exact Nat.le_antisymm hle (h.symm.furthest_le (Nat.le_trans ht hle))

end Trace

/-- Traces that are alike from a column on, and get as far as this column, explain a mismatch
alike. -/
theorem Rejection.ofTrace_congr {t u : Trace} (h : t.Alike start u) (ht : start ≤ t.furthest)
    (text : List Char) : ofTrace text t = ofTrace text u := by
  have hexpected : Terminal.all.filter ((t.missedAt u.furthest).contains ·) =
      Terminal.all.filter ((u.missedAt u.furthest).contains ·) := by
    refine List.filter_congr fun terminal _ => ?_
    rw [Bool.eq_iff_iff, List.contains_iff_mem, List.contains_iff_mem, Trace.mem_missedAt,
      Trace.mem_missedAt]
    exact h _ _ (h.furthest_eq ht ▸ ht)
  unfold ofTrace
  simp only [h.furthest_eq ht, hexpected]

/-! ## Outcomes and parsers -/

/-- The same reply, with traces that are alike from a column on. -/
structure Outcome.Like (start : Nat) (x y : Outcome α) : Prop where
  reply_eq : x.reply = y.reply
  alike : x.trace.Alike start y.trace

namespace Outcome.Like

variable {x y z : Outcome α} {t u : Trace}

theorem refl (start : Nat) (x : Outcome α) : x.Like start x :=
  ⟨rfl, .refl _ _⟩

theorem symm (h : x.Like start y) : y.Like start x :=
  ⟨h.reply_eq.symm, h.alike.symm⟩

theorem trans (hxy : x.Like start y) (hyz : y.Like start z) : x.Like start z :=
  ⟨hxy.reply_eq.trans hyz.reply_eq, hxy.alike.trans hyz.alike⟩

theorem mono {later : Nat} (h : x.Like start y) (hlater : start ≤ later) : x.Like later y :=
  ⟨h.reply_eq, h.alike.mono hlater⟩

theorem after (h : x.Like start y) (ht : t.Alike start u) :
    (x.after t).Like start (y.after u) :=
  ⟨h.reply_eq, ht.append h.alike⟩

theorem after_empty (h : x.Like start y) (ht : t.Alike start .empty) : (x.after t).Like start y :=
  ⟨h.reply_eq, ht.empty_append h.alike⟩

end Outcome.Like

namespace Parser

/-- The parsers give the same reply from every place, and miss the same terminals. -/
def Like (p q : Parser α) : Prop :=
  ∀ cursor, (p cursor).Like 0 (q cursor)

namespace Like

theorem refl (p : Parser α) : p.Like p :=
  fun _ => .refl _ _

theorem trans {p q r : Parser α} (hpq : p.Like q) (hqr : q.Like r) : p.Like r :=
  fun cursor => (hpq cursor).trans (hqr cursor)

variable {p p' q q' r : Parser α} {f f' g : α → Parser β} {cursor : Cursor}

theorem symm (h : p.Like q) : q.Like p :=
  fun cursor => (h cursor).symm

private theorem exists_outcomes (h : p.Like p') (cursor : Cursor) :
    ∃ reply trace trace', p cursor = ⟨reply, trace⟩ ∧ p' cursor = ⟨reply, trace'⟩ ∧
      trace.Alike 0 trace' := by
  obtain ⟨hreply, halike⟩ := h cursor
  refine ⟨(p cursor).reply, (p cursor).trace, (p' cursor).trace, rfl, ?_, halike⟩
  rw [hreply]

theorem bind (hp : p.Like p') (hf : ∀ a, (f a).Like (f' a)) : (p >>= f).Like (p' >>= f') := by
  intro cursor
  obtain ⟨reply, trace, trace', hcursor, hcursor', halike⟩ := hp.exists_outcomes cursor
  cases reply with
  | done a next =>
    rw [bind_of_done hcursor, bind_of_done hcursor']
    exact (hf a next).after halike
  | mismatch =>
    rw [bind_of_mismatch hcursor, bind_of_mismatch hcursor']
    exact ⟨rfl, halike⟩
  | tooDeep column =>
    rw [bind_of_tooDeep hcursor, bind_of_tooDeep hcursor']
    exact ⟨rfl, halike⟩

theorem orElse (hp : p.Like p') (hq : q.Like q') :
    (Parser.orElse p q).Like (Parser.orElse p' q') := by
  intro cursor
  obtain ⟨reply, trace, trace', hcursor, hcursor', halike⟩ := hp.exists_outcomes cursor
  cases reply with
  | done a next =>
    rw [orElse_of_done hcursor, orElse_of_done hcursor']
    exact ⟨rfl, halike⟩
  | mismatch =>
    rw [orElse_of_mismatch hcursor, orElse_of_mismatch hcursor']
    exact (hq cursor).after halike
  | tooDeep column =>
    rw [orElse_of_tooDeep hcursor, orElse_of_tooDeep hcursor']
    exact ⟨rfl, halike⟩

end Like

/-! ## Parts in a row -/

theorem bind_done_like {p : Parser α} {f : α → Parser β} {cursor next : Cursor} {a : α} {t : Trace}
    (h : (p cursor).Like start ⟨.done a next, t⟩) :
    ((p >>= f) cursor).Like start ((f a next).after t) := by
  rcases hp : p cursor with ⟨reply, u⟩
  rw [hp] at h
  obtain ⟨rfl, halike⟩ := h
  rw [bind_of_done hp]
  exact (Outcome.Like.refl _ _).after halike

theorem optional_done_like {p : Parser α} {cursor next : Cursor} {a : α} {t : Trace}
    (h : (p cursor).Like start ⟨.done a next, t⟩) :
    (optional p cursor).Like start ⟨.done (some a) next, t⟩ := by
  rcases hp : p cursor with ⟨reply, u⟩
  rw [hp] at h
  obtain ⟨rfl, halike⟩ := h
  rw [optional_of_done hp]
  exact ⟨rfl, halike⟩

/-- Outcomes that are alike but for an earlier trace stay so if both go on in the same way. -/
theorem bind_like_after {p q : Parser α} {cursor other : Cursor} {t : Trace}
    (h : (p cursor).Like start ((q other).after t)) (f : α → Parser β) :
    ((p >>= f) cursor).Like start (((q >>= f) other).after t) := by
  rcases hp : p cursor with ⟨reply, u⟩
  rcases hq : q other with ⟨reply', u'⟩
  rw [hp, hq] at h
  obtain ⟨hreply, halike⟩ := h
  obtain rfl : reply = reply' := hreply
  cases reply with
  | done a next =>
    rw [bind_of_done hp, bind_of_done hq]
    refine ((Outcome.Like.refl start (f a next)).after halike).trans ⟨rfl, fun _ _ _ => ?_⟩
    simp
  | mismatch =>
    rw [bind_of_mismatch hp, bind_of_mismatch hq]
    exact ⟨rfl, halike⟩
  | tooDeep column =>
    rw [bind_of_tooDeep hp, bind_of_tooDeep hq]
    exact ⟨rfl, halike⟩

theorem pure_bind_like (a : α) (f : α → Parser β) : (Pure.pure a >>= f).Like (f a) := by
  intro cursor
  rw [bind_of_done (pure_apply a cursor)]
  exact (Outcome.Like.refl _ _).after_empty (.refl _ _)

/-- It does not matter how parts in a row are put together. -/
theorem bind_assoc_like {γ : Type} (p : Parser α) (f : α → Parser β) (g : β → Parser γ) :
    ((p >>= f) >>= g).Like (p >>= fun a => f a >>= g) := by
  intro cursor
  rcases hp : p cursor with ⟨⟨a, next⟩ | _ | column, t⟩
  · rw [bind_of_done hp]
    rcases hf : f a next with ⟨⟨b, last⟩ | _ | column, u⟩
    · rw [bind_of_done ((bind_of_done hp).trans (by rw [hf]; rfl)), bind_of_done hf]
      refine ⟨rfl, fun column terminal _ => ?_⟩
      simp
    · rw [bind_of_mismatch ((bind_of_done hp).trans (by rw [hf]; rfl)), bind_of_mismatch hf]
      exact .refl _ _
    · rw [bind_of_tooDeep ((bind_of_done hp).trans (by rw [hf]; rfl)), bind_of_tooDeep hf]
      exact .refl _ _
  · rw [bind_of_mismatch (bind_of_mismatch hp), bind_of_mismatch hp]
    exact .refl _ _
  · rw [bind_of_tooDeep (bind_of_tooDeep hp), bind_of_tooDeep hp]
    exact .refl _ _

/-! ## Alternatives -/

/-- It does not matter how a list of alternatives is put together. -/
theorem orElse_assoc_like (p q r : Parser α) :
    (orElse p (orElse q r)).Like (orElse (orElse p q) r) := by
  intro cursor
  unfold orElse
  rcases p cursor with ⟨_ | _ | _, t⟩
  · exact .refl _ _
  · rcases q cursor with ⟨_ | _ | _, u⟩
    · exact .refl _ _
    · refine ⟨rfl, fun column terminal _ => ?_⟩
      simp [Outcome.after]
    · exact .refl _ _
  · exact .refl _ _

/-- Alternatives that begin alike may read their beginning once. The textbook reads it once for each
of them, but a second reading misses nothing that the first one did not miss. -/
theorem orElse_bind_like (p : Parser α) (f g : α → Parser β) :
    (orElse (p >>= f) (p >>= g)).Like (p >>= fun a => orElse (f a) (g a)) := by
  intro cursor
  rcases hp : p cursor with ⟨⟨a, next⟩ | _ | column, t⟩
  · rw [bind_of_done hp]
    rcases hf : f a next with ⟨_ | _ | _, u⟩
    · rw [orElse_of_done ((bind_of_done hp).trans (by rw [hf]; rfl)), orElse_of_done hf]
      exact .refl _ _
    · rw [orElse_of_mismatch ((bind_of_done hp).trans (by rw [hf]; rfl)), orElse_of_mismatch hf,
        bind_of_done hp]
      refine ⟨rfl, fun column terminal _ => ?_⟩
      simp only [Outcome.after_trace, Trace.toList_append, List.mem_append]
      grind
    · rw [orElse_of_tooDeep ((bind_of_done hp).trans (by rw [hf]; rfl)), orElse_of_tooDeep hf]
      exact .refl _ _
  · rw [bind_of_mismatch hp, orElse_of_mismatch (bind_of_mismatch hp), bind_of_mismatch hp]
    refine ⟨rfl, fun column terminal _ => ?_⟩
    simp
  · rw [bind_of_tooDeep hp, orElse_of_tooDeep (bind_of_tooDeep hp)]
    exact .refl _ _

variable {p q : Parser α} {cursor : Cursor}

/-- A second parser does not matter if it misses, and nothing from the column on. -/
theorem orElse_miss_like (h : (q cursor).Like start ⟨.mismatch, .empty⟩) :
    (orElse p q cursor).Like start (p cursor) := by
  rcases hp : p cursor with ⟨_ | _ | _, t⟩
  · rw [orElse_of_done hp]
    exact .refl _ _
  · rw [orElse_of_mismatch hp]
    refine (h.after (.refl _ t)).trans ⟨rfl, fun column terminal _ => ?_⟩
    simp
  · rw [orElse_of_tooDeep hp]
    exact .refl _ _

/-- A first parser does not matter if it misses, and nothing from the column on. -/
theorem miss_orElse_like (h : (p cursor).Like start ⟨.mismatch, .empty⟩) :
    (orElse p q cursor).Like start (q cursor) := by
  rcases hp : p cursor with ⟨reply, t⟩
  rw [hp] at h
  obtain ⟨rfl, halike⟩ := h
  rw [orElse_of_mismatch hp]
  exact (Outcome.Like.refl _ _).after_empty halike

end Parser

end TagQuery
