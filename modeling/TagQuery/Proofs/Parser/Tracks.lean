import TagQuery.Proofs.Parser.Composed

/-!
# Two texts that begin alike

All that a parser knows of the text it has from terminals that were there and terminals that were
missed. So it does the same on two texts that have their beginning in common, if it gets no further
than this beginning on the one, and what it misses there would be missed on the other too.

* `Outcome.onto text x`: the outcome `x` at the same column of another text.
* `Parser.Composed.tracks`: a parser put together from the combinators comes to the same.
* `Parser.wholeQuery_tracks`: a mismatch of a whole query stays one, with the same trace.
-/

namespace TagQuery

variable {α β : Type} {common tail other first : List Char} {column : Nat}

/-- The outcome at the same column of another text. -/
def Outcome.onto (text : List Char) (x : Outcome α) : Outcome α :=
  match x with
  | ⟨.done a next, trace⟩ => ⟨.done a (.ofColumn text next.column), trace⟩
  | _ => x

theorem Outcome.onto_after (text : List Char) (x : Outcome α) (earlier : Trace) :
    (x.after earlier).onto text = (x.onto text).after earlier := by
  rcases x with ⟨_ | _ | _, _⟩ <;> rfl

/-- What lies within the common beginning lies between the same columns of both texts. -/
theorem Cursor.Passes.of_common {later : Nat}
    (h : (Cursor.ofColumn (common ++ tail) column).Passes first (.ofColumn (common ++ tail) later))
    (other : List Char) (hlater : later ≤ common.length) :
    (Cursor.ofColumn (common ++ other) column).Passes first (.ofColumn (common ++ other) later) := by
  have hcolumn : later = column + first.length := h.column_eq
  have hrest : (common ++ tail).drop column = first ++ (common ++ tail).drop later := h.rest_eq
  have hle : column ≤ common.length := by omega
  rw [List.drop_append_of_le_length hle, List.drop_append_of_le_length hlater,
    ← List.append_assoc] at hrest
  have hcommon := List.append_cancel_right hrest
  refine ⟨?_, hcolumn⟩
  show (common ++ other).drop column = first ++ (common ++ other).drop later
  rw [List.drop_append_of_le_length hle, List.drop_append_of_le_length hlater, hcommon,
    List.append_assoc]

namespace Parser

/-- What a parser missed lies within the common beginning, and in the other text it is not there
either. -/
def MissedToo (common other : List Char) (trace : Trace) : Prop :=
  ∀ column t, (column, t) ∈ trace.toList →
    column ≤ common.length ∧ t.strip? ((common ++ other).drop column) = none

theorem MissedToo.append {t u : Trace} :
    MissedToo common other (t ++ u) ↔ MissedToo common other t ∧ MissedToo common other u := by
  simp only [MissedToo, Trace.toList_append, List.mem_append]
  exact ⟨fun h => ⟨fun c a hc => h c a (.inl hc), fun c a hc => h c a (.inr hc)⟩,
    fun h c a hc => hc.elim (h.1 c a) (h.2 c a)⟩

/-- On two texts with a common beginning the parser comes to the same, as far as the traces tell. -/
def Tracks (p : Parser α) : Prop :=
  ∀ (common tail other : List Char) (column : Nat),
    MissedToo common other (p (.ofColumn (common ++ tail) column)).trace →
    (∀ a next, (p (.ofColumn (common ++ tail) column)).reply = .done a next →
      next.column ≤ common.length) →
    (∀ deep, (p (.ofColumn (common ++ tail) column)).reply ≠ .tooDeep deep) →
    p (.ofColumn (common ++ other) column) =
      (p (.ofColumn (common ++ tail) column)).onto (common ++ other)

/-! ## The combinators -/

section Combinators

variable {p q : Parser α} {f : α → Parser β}

theorem tracks_pure (a : α) : (Pure.pure a : Parser α).Tracks :=
  fun _ _ _ _ _ _ _ => rfl

theorem tracks_tooDeep : (tooDeep : Parser α).Tracks :=
  fun _ _ _ _ _ _ hflat => absurd rfl (hflat _)

/-- A parser that was followed by another got no further than this did. -/
theorem Composed.column_le_of_done (hf : ∀ a, Composed (f a)) {a : α} {next : Cursor}
    {bound : Nat} (hmissed : ∀ column t, (column, t) ∈ (f a next).trace.toList → column ≤ bound)
    (hdone : ∀ b last, (f a next).reply = .done b last → last.column ≤ bound)
    (hflat : ∀ deep, (f a next).reply ≠ .tooDeep deep) : next.column ≤ bound := by
  cases hreply : (f a next).reply with
  | done b last =>
    obtain ⟨read, hread⟩ := (hf a).passes hreply
    exact Nat.le_trans hread.column_le (hdone b last hreply)
  | mismatch =>
    obtain ⟨column, t, hmem⟩ := (hf a).explains hreply
    exact Nat.le_trans ((hf a).le_of_mem hmem) (hmissed column t hmem)
  | tooDeep deep => exact absurd hreply (hflat deep)

theorem Tracks.bind (hp : p.Tracks) (hcomposed : Composed p) (hf : ∀ a, (f a).Tracks)
    (hcomposed' : ∀ a, Composed (f a)) : (p >>= f).Tracks := by
  intro common tail other column hmissed hdone hflat
  have hfirst := hp common tail other column
  rcases hcursor : p (.ofColumn (common ++ tail) column) with ⟨⟨a, next⟩ | _ | deep, trace⟩
  · rw [hcursor] at hfirst
    rw [bind_of_done hcursor] at hmissed hdone hflat ⊢
    obtain ⟨hbefore, hthen⟩ := MissedToo.append.mp hmissed
    have hle : next.column ≤ common.length := Composed.column_le_of_done hcomposed'
      (fun column t hmem => (hthen column t hmem).1) hdone hflat
    have hsame := hfirst hbefore (fun b last h => by cases h; exact hle) nofun
    obtain ⟨read, hread⟩ := hcomposed.passes (by rw [hcursor])
    rw [hread.eq_ofColumn] at hthen hdone hflat ⊢
    rw [bind_of_done hsame, Outcome.onto_after]
    exact congrArg (Outcome.after · trace) (hf a _ _ _ _ hthen hdone hflat)
  · rw [hcursor] at hfirst
    rw [bind_of_mismatch hcursor] at hmissed ⊢
    have hsame := hfirst hmissed nofun nofun
    rw [bind_of_mismatch hsame]
    rfl
  · rw [bind_of_tooDeep hcursor] at hflat
    exact absurd rfl (hflat deep)

theorem Tracks.orElse (hp : p.Tracks) (hq : q.Tracks) : (orElse p q).Tracks := by
  intro common tail other column hmissed hdone hflat
  have hfirst := hp common tail other column
  rcases hcursor : p (.ofColumn (common ++ tail) column) with ⟨⟨a, next⟩ | _ | deep, trace⟩
  · rw [hcursor] at hfirst
    rw [orElse_of_done hcursor] at hmissed hdone ⊢
    have hsame := hfirst hmissed hdone nofun
    rw [orElse_of_done hsame]
    rfl
  · rw [hcursor] at hfirst
    rw [orElse_of_mismatch hcursor] at hmissed hdone hflat ⊢
    obtain ⟨hbefore, hthen⟩ := MissedToo.append.mp hmissed
    have hsame := hfirst hbefore nofun nofun
    rw [orElse_of_mismatch hsame, Outcome.onto_after]
    exact congrArg (Outcome.after · trace) (hq _ _ _ _ hthen hdone hflat)
  · rw [orElse_of_tooDeep hcursor] at hflat
    exact absurd rfl (hflat deep)

theorem Tracks.optional (hp : p.Tracks) : (optional p).Tracks := by
  intro common tail other column hmissed hdone hflat
  have hfirst := hp common tail other column
  rcases hcursor : p (.ofColumn (common ++ tail) column) with ⟨⟨a, next⟩ | _ | deep, trace⟩
  · rw [hcursor] at hfirst
    rw [optional_of_done hcursor] at hmissed hdone ⊢
    have hsame := hfirst hmissed (fun b last h => by cases h; exact hdone _ _ rfl) nofun
    rw [optional_of_done hsame]
    rfl
  · rw [hcursor] at hfirst
    rw [optional_of_mismatch hcursor] at hmissed ⊢
    have hsame := hfirst hmissed nofun nofun
    rw [optional_of_mismatch hsame]
    rfl
  · rw [optional_of_tooDeep hcursor] at hflat
    exact absurd rfl (hflat deep)

/-- A terminal that was there lies in the common beginning. -/
theorem tracks_terminal {t : Terminal} (inside : t ≠ .endOfInput) : (terminal t).Tracks := by
  intro common tail other column hmissed hdone _
  cases hstrip : t.strip? (Cursor.ofColumn (common ++ tail) column).rest with
  | none =>
    rw [terminal_of_none hstrip] at hmissed ⊢
    have hother := (hmissed column t (List.mem_singleton.mpr rfl)).2
    exact terminal_of_none hother
  | some rest =>
    have hread := terminal_of_some hstrip
    rw [hread] at hdone ⊢
    obtain ⟨word, hword, hpasses⟩ := terminal_passes (congrArg Outcome.reply hread)
    have hlater := hpasses.eq_ofColumn
    rw [hlater] at hpasses
    have hsame := hpasses.of_common other (hdone () _ rfl)
    have hother : t.strip? (Cursor.ofColumn (common ++ other) column).rest =
        some ((common ++ other).drop (column + t.width)) :=
      Terminal.strip?_eq_some_iff.mpr ⟨word, hword, hsame.rest_eq, fun hend => absurd hend inside⟩
    exact terminal_of_some hother

/-- The characters of a class end at the same column. -/
theorem after_of_common {cls : CharClass}
    (hle : ((Cursor.ofColumn (common ++ tail) column).after cls).column ≤ common.length)
    (hmissed : (Terminal.character cls).strip? ((common ++ other).drop
      ((Cursor.ofColumn (common ++ tail) column).after cls).column) = none) :
    (Cursor.ofColumn (common ++ other) column).rest.takeWhile cls.contains =
        (Cursor.ofColumn (common ++ tail) column).rest.takeWhile cls.contains ∧
      (Cursor.ofColumn (common ++ other) column).after cls =
        .ofColumn (common ++ other) ((Cursor.ofColumn (common ++ tail) column).after cls).column := by
  have hpasses := (Cursor.ofColumn (common ++ tail) column).passes_after cls
  rw [hpasses.eq_ofColumn] at hpasses
  have hrest := (hpasses.of_common other hle).rest_eq
  have hall := List.all_eq_true.mp
    (List.all_takeWhile (p := cls.contains) (l := (Cursor.ofColumn (common ++ tail) column).rest))
  have hends := Terminal.strip?_character.mp hmissed
  constructor
  · rw [hrest]
    exact Text.takeWhile_run hall hends
  · have hafter := after_run hall hends column
    have hcursor : Cursor.ofColumn (common ++ other) column = ⟨column, _⟩ :=
      congrArg (Cursor.mk column) hrest
    rw [hcursor]
    exact hafter

theorem tracks_skip (cls : CharClass) : (skip cls).Tracks := by
  intro common tail other column hmissed _ _
  obtain ⟨hle, hother⟩ := hmissed _ _ (mem_trace_skip.mpr rfl)
  obtain ⟨-, hafter⟩ := after_of_common hle hother
  unfold skip
  rw [hafter]
  rfl

theorem tracks_run (cls : CharClass) : (run cls).Tracks := by
  intro common tail other column hmissed _ _
  obtain ⟨hle, hother⟩ := hmissed _ _ (mem_trace_run.mpr rfl)
  obtain ⟨htake, hafter⟩ := after_of_common hle hother
  unfold run
  rw [htake, hafter]
  dsimp only
  split <;> rfl

end Combinators

/-- A parser comes to the same on both texts, at whatever column. -/
theorem Composed.tracks {p : Parser α} (hp : Composed p) : p.Tracks := by
  induction hp with
  | pure a => exact tracks_pure a
  | bind hp hf ihp ihf => exact ihp.bind hp ihf hf
  | orElse _ _ ihp ihq => exact ihp.orElse ihq
  | optional _ ihp => exact ihp.optional
  | tooDeep => exact tracks_tooDeep
  | terminal inside => exact tracks_terminal inside
  | skip cls => exact tracks_skip cls
  | run cls => exact tracks_run cls

/-! ## A whole query -/

/-- A mismatch stays one, for the same reasons. -/
theorem wholeQuery_tracks {limit : Nat}
    (hmismatch : (wholeQuery limit (.ofColumn (common ++ tail) 0)).reply = .mismatch)
    (hmissed : MissedToo common other (wholeQuery limit (.ofColumn (common ++ tail) 0)).trace) :
    wholeQuery limit (.ofColumn (common ++ other) 0) =
      wholeQuery limit (.ofColumn (common ++ tail) 0) := by
  have hquery := (composed_query (limit + 1)).tracks common tail other 0
  rw [wholeQuery_eq] at hmismatch hmissed ⊢
  rcases hcursor : query (limit + 1) (.ofColumn (common ++ tail) 0) with ⟨⟨e, next⟩ | _ | deep, trace⟩
  · rw [hcursor] at hquery
    rw [bind_of_done hcursor] at hmismatch hmissed ⊢
    obtain ⟨hbefore, hafter⟩ := MissedToo.append.mp hmissed
    cases hstrip : Terminal.endOfInput.strip? next.rest with
    | some rest =>
      rw [bind_of_done (terminal_of_some hstrip)] at hmismatch
      cases hmismatch
    | none =>
      have hend := terminal_of_none hstrip
      rw [bind_of_mismatch hend] at hafter ⊢
      obtain ⟨hle, hother⟩ := hafter next.column .endOfInput (List.mem_singleton.mpr rfl)
      have hsame := hquery hbefore (fun e last h => by cases h; exact hle) nofun
      rw [bind_of_done hsame, bind_of_mismatch (terminal_of_none hother)]
      rfl
  · rw [hcursor] at hquery
    rw [bind_of_mismatch hcursor] at hmissed ⊢
    exact bind_of_mismatch (hquery hmissed nofun nofun)
  · rw [bind_of_tooDeep hcursor] at hmismatch
    cases hmismatch

end Parser

end TagQuery
