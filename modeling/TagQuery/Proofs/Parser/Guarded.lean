import TagQuery.Proofs.Parser.Composed

/-!
# Near misses

A reader looks at one character to choose among alternatives. If a terminal is missed where its
first character stands, then nothing else should fit there either, so that the reader gets no
further.

* `IsNear text column t`: the first character of the terminal may be the one at the column.
* `Parser.Guarded first bar p`: the parser needs a character of `first` to do anything at all. It
  misses nothing behind a near miss. And where it ends after a near miss, or after it has looked
  further ahead, there stands a character of `bar`, which depends on what was read.
* The combinators: a parser may come after another if it does not begin with a bar of it
  (`Guarded.bind`), and alternatives have to begin differently (`Guarded.orElse`).
-/

namespace TagQuery

variable {α β : Type}

/-- A terminal may begin with the character at a column. -/
def IsNear (text : List Char) (column : Nat) (t : Terminal) : Prop :=
  ∃ c ∈ text[column]?, t.CanBegin c

namespace Parser

/-- The parser does not leave its place, and has no near miss there. -/
structure Quiet (p : Parser α) (text : List Char) (start : Nat) : Prop where
  missed {column : Nat} {t : Terminal}
    (h : (column, t) ∈ (p (.ofColumn text start)).trace.toList) :
    column = start ∧ ¬IsNear text column t
  done {a : α} {next : Cursor} (h : (p (.ofColumn text start)).reply = .done a next) :
    next.column = start

/-- What a parser leaves behind that looks one character ahead. -/
structure Guarded (first : Char → Prop) (bar : α → Char → Prop) (p : Parser α) : Prop where
  composed : Composed p
  /-- Before any other character the parser does nothing. -/
  quiet {text : List Char} {start : Nat} (h : ∀ c ∈ text[start]?, ¬first c) : p.Quiet text start
  /-- Nothing is missed behind a near miss. -/
  last {text : List Char} {start column later : Nat} {t t' : Terminal}
    (h : (column, t) ∈ (p (.ofColumn text start)).trace.toList) (near : IsNear text column t)
    (h' : (later, t') ∈ (p (.ofColumn text start)).trace.toList) : later ≤ column
  /-- After a near miss, or a look ahead, nothing but a bar comes next. -/
  barred {text : List Char} {start column : Nat} {t : Terminal} {a : α} {next : Cursor}
    (h : (p (.ofColumn text start)).reply = .done a next)
    (h' : (column, t) ∈ (p (.ofColumn text start)).trace.toList)
    (ahead : IsNear text column t ∨ next.column < column) :
    next.column ≤ column ∧ ∃ c ∈ text[next.column]?, bar a c

variable {p q : Parser α} {f : α → Parser β} {first first' : Char → Prop} {bar bar' : α → Char → Prop}
  {text : List Char} {start column : Nat} {t : Terminal}

/-! ## Doing nothing -/

theorem Quiet.bind (hp : p.Quiet text start) (hcomposed : Composed p)
    (hf : ∀ a, (p (.ofColumn text start)).reply = .done a (.ofColumn text start) →
      (f a).Quiet text start) : (p >>= f).Quiet text start := by
  have hstays : ∀ {a next}, (p (.ofColumn text start)).reply = .done a next →
      next = .ofColumn text start := by
    intro a next hreply
    obtain ⟨hnext, -⟩ := hcomposed.ofColumn_of_done hreply
    rwa [hp.done hreply] at hnext
  constructor
  · intro column t hmem
    rcases mem_trace_bind.mp hmem with hmem | ⟨a, next, hreply, hmem⟩
    · exact hp.missed hmem
    · obtain rfl := hstays hreply
      exact (hf a hreply).missed hmem
  · intro b last h
    obtain ⟨a, next, hreply, h⟩ := reply_bind_eq_done.mp h
    obtain rfl := hstays hreply
    exact (hf a hreply).done h

theorem Quiet.orElse (hp : p.Quiet text start) (hq : q.Quiet text start) :
    (orElse p q).Quiet text start := by
  constructor
  · intro column t hmem
    rcases mem_trace_orElse.mp hmem with hmem | ⟨-, hmem⟩
    · exact hp.missed hmem
    · exact hq.missed hmem
  · intro a next h
    rcases reply_orElse_eq_done.mp h with h | ⟨-, h⟩
    · exact hp.done h
    · exact hq.done h

theorem Quiet.optional (hp : p.Quiet text start) : (optional p).Quiet text start := by
  refine ⟨fun hmem => hp.missed (mem_trace_optional.mp hmem), fun h => ?_⟩
  rcases reply_optional_eq_done.mp h with ⟨a, h, -⟩ | ⟨-, -, rfl⟩
  · exact hp.done h
  · rfl

theorem Guarded.quiet_of_mem (h : p.Guarded first bar) {c : Char} (hc : c ∈ text[start]?)
    (hno : ¬first c) : p.Quiet text start := by
  refine h.quiet fun d hd => ?_
  rwa [Option.mem_unique hd hc]

/-- A near miss, or a miss further on, shows how the text began. -/
theorem Guarded.exists_first (h : p.Guarded first bar)
    (hmem : (column, t) ∈ (p (.ofColumn text start)).trace.toList)
    (ahead : IsNear text column t ∨ start < column) : ∃ c ∈ text[start]?, first c := by
  by_cases hfirst : ∃ c ∈ text[start]?, first c
  · exact hfirst
  · have hquiet := h.quiet fun c hc hc' => hfirst ⟨c, hc, hc'⟩
    obtain ⟨hcolumn, hfar⟩ := hquiet.missed hmem
    rcases ahead with hnear | hlt
    · exact absurd hnear hfar
    · omega

/-- A parser that read something began with a character that it needs. -/
theorem Guarded.exists_first_of_done (h : p.Guarded first bar) {a : α} {next : Cursor}
    (hreply : (p (.ofColumn text start)).reply = .done a next) (hlt : start < next.column) :
    ∃ c ∈ text[start]?, first c := by
  by_cases hfirst : ∃ c ∈ text[start]?, first c
  · exact hfirst
  · have hquiet := h.quiet fun c hc hc' => hfirst ⟨c, hc, hc'⟩
    have hcolumn := hquiet.done hreply
    omega

/-! ## The combinators -/

theorem Guarded.mono (h : p.Guarded first bar) (hfirst : ∀ c, first c → first' c)
    (hbar : ∀ a c, bar a c → bar' a c) : p.Guarded first' bar' where
  composed := h.composed
  quiet hnone := h.quiet fun c hc hcfirst => hnone c hc (hfirst c hcfirst)
  last := h.last
  barred hreply hmem ahead := by
    obtain ⟨hle, c, hc, hbarred⟩ := h.barred hreply hmem ahead
    exact ⟨hle, c, hc, hbar _ c hbarred⟩

theorem guarded_pure (a : α) : (Pure.pure a : Parser α).Guarded first bar where
  composed := .pure a
  quiet _ := by
    refine ⟨fun hmem => absurd hmem not_mem_trace_pure, fun h => ?_⟩
    obtain ⟨-, rfl⟩ := reply_pure_eq_done.mp h
    rfl
  last hmem _ _ := absurd hmem not_mem_trace_pure
  barred _ hmem _ := absurd hmem not_mem_trace_pure

theorem guarded_tooDeep : (tooDeep : Parser α).Guarded first bar where
  composed := .tooDeep
  quiet _ := ⟨fun hmem => absurd hmem not_mem_trace_tooDeep, nofun⟩
  last hmem _ _ := absurd hmem not_mem_trace_tooDeep
  barred _ hmem _ := absurd hmem not_mem_trace_tooDeep

/-- What comes next must not begin with a bar. It may be in place of what the first parser did not
read. -/
theorem Guarded.bind {bar' : β → Char → Prop} (hp : p.Guarded first bar)
    (following : α → Char → Prop)
    (hf : ∀ a, (f a).Guarded (following a) bar')
    (hdisjoint : ∀ a c, bar a c → ¬following a c)
    (hstart : ∀ a, (∀ c, following a c → first c) ∨
      ∀ cursor next, (p cursor).reply = .done a next → cursor.column < next.column)
    (hkeep : ∀ a, (∀ b c, bar a c → bar' b c) ∨ Consumes (f a)) :
    (p >>= f).Guarded first bar' where
  composed := .bind hp.composed fun a => (hf a).composed
  quiet hnone := by
    have hquiet := hp.quiet hnone
    refine hquiet.bind hp.composed fun a hreply => (hf a).quiet fun c hc hthen => ?_
    rcases hstart a with hsub | hlt
    · exact hnone c hc (hsub c hthen)
    · exact absurd (hlt _ _ hreply) (Nat.lt_irrefl _)
  last {text start column later t t'} hmem hnear hmem' := by
    rcases mem_trace_bind.mp hmem with hmem | ⟨a, next, hreply, hmem⟩ <;>
      rcases mem_trace_bind.mp hmem' with hmem' | ⟨a', next', hreply', hmem'⟩
    · exact hp.last hmem hnear hmem'
    · obtain ⟨hle, c, hc, hbar⟩ := hp.barred hreply' hmem (.inl hnear)
      rw [(hp.composed.ofColumn_of_done hreply').1] at hmem'
      have hquiet := (hf a').quiet_of_mem hc (hdisjoint a' c hbar)
      rw [(hquiet.missed hmem').1]
      exact hle
    · have hstarts : next.column ≤ column := (hf a).composed.le_of_mem hmem
      rw [(hp.composed.ofColumn_of_done hreply).1] at hmem
      refine Nat.le_of_not_lt fun hlt => ?_
      obtain ⟨-, c, hc, hbar⟩ := hp.barred hreply hmem' (.inr (Nat.lt_of_le_of_lt hstarts hlt))
      have hquiet := (hf a).quiet_of_mem hc (hdisjoint a c hbar)
      exact (hquiet.missed hmem).2 hnear
    · rw [hreply] at hreply'
      cases hreply'
      rw [(hp.composed.ofColumn_of_done hreply).1] at hmem hmem'
      exact (hf a).last hmem hnear hmem'
  barred {text start column t b last} h hmem hahead := by
    obtain ⟨a, next, hreply, h⟩ := reply_bind_eq_done.mp h
    obtain ⟨hnext, -⟩ := hp.composed.ofColumn_of_done hreply
    rw [hnext] at h
    rcases mem_trace_bind.mp hmem with hmem | ⟨a', next', hreply', hmem⟩
    · obtain ⟨-, hle⟩ := (hf a).composed.ofColumn_of_done h
      obtain ⟨hcolumn, c, hc, hbar⟩ := hp.barred hreply hmem
        (hahead.imp_right (Nat.lt_of_le_of_lt hle))
      have hquiet := (hf a).quiet_of_mem hc (hdisjoint a c hbar)
      have hlast := hquiet.done h
      rw [hlast]
      rcases hkeep a with hsub | hconsumes
      · exact ⟨hcolumn, c, hc, hsub b c hbar⟩
      · have hlt : next.column < last.column := (hconsumes _ b last h).2
        omega
    · rw [hreply] at hreply'
      cases hreply'
      rw [hnext] at hmem
      exact (hf a).barred h hmem hahead

/-- After a parser that leaves nothing behind anything may come, if it begins like this one or this
one reads something. -/
theorem Guarded.bind_clear {bar' : β → Char → Prop} {following : Char → Prop}
    (hp : p.Guarded first fun _ _ => False) (hf : ∀ a, (f a).Guarded following bar')
    (hstart : (∀ c, following c → first c) ∨ Consumes p) : (p >>= f).Guarded first bar' := by
  refine hp.bind (fun _ => following) hf nofun (fun a => hstart.imp_right fun hconsumes => ?_)
    fun _ => .inl nofun
  exact fun cursor next hreply => (hconsumes cursor a next hreply).2

/-- What is made of a value that was read does not matter. -/
theorem Guarded.map {bar' : β → Char → Prop} (g : α → β) (hp : p.Guarded first bar)
    (hbar : ∀ a b c, bar a c → bar' b c) : (p >>= fun a => Pure.pure (g a)).Guarded first bar' :=
  have hpure : ∀ a, (Pure.pure (g a) : Parser β).Guarded (fun _ => False) bar' :=
    fun a => guarded_pure (g a)
  hp.bind _ hpure (fun _ _ _ => id) (fun _ => .inl nofun) fun a => .inl (hbar a)

theorem Guarded.orElse {first' : Char → Prop} (hp : p.Guarded first bar) (hq : q.Guarded first' bar)
    (hdisjoint : ∀ c, first c → ¬first' c) (hconsumes : Consumes q) :
    (orElse p q).Guarded (fun c => first c ∨ first' c) bar where
  composed := .orElse hp.composed hq.composed
  quiet hnone := by
    have hquiet := hp.quiet fun c hc h => hnone c hc (.inl h)
    exact hquiet.orElse (hq.quiet fun c hc h => hnone c hc (.inr h))
  last {text start column later t t'} hmem hnear hmem' := by
    rcases mem_trace_orElse.mp hmem with hmem | ⟨-, hmem⟩ <;>
      rcases mem_trace_orElse.mp hmem' with hmem' | ⟨-, hmem'⟩
    · exact hp.last hmem hnear hmem'
    · obtain ⟨c, hc, hfirst⟩ := hp.exists_first hmem (.inl hnear)
      have hquiet := hq.quiet_of_mem hc (hdisjoint c hfirst)
      rw [(hquiet.missed hmem').1]
      exact hp.composed.le_of_mem hmem
    · obtain ⟨c, hc, hfirst⟩ := hq.exists_first hmem (.inl hnear)
      have hquiet := hp.quiet_of_mem hc fun h => hdisjoint c h hfirst
      rw [(hquiet.missed hmem').1]
      exact hq.composed.le_of_mem hmem
    · exact hq.last hmem hnear hmem'
  barred {text start column t a next} h hmem hahead := by
    rcases reply_orElse_eq_done.mp h with hreply | ⟨hmismatch, hreply⟩ <;>
      rcases mem_trace_orElse.mp hmem with hmem | ⟨hmismatch', hmem⟩
    · exact hp.barred hreply hmem hahead
    · rw [hreply] at hmismatch'
      cases hmismatch'
    · have hlt : start < next.column := (hconsumes _ a next hreply).2
      obtain ⟨c, hc, hfirst⟩ := hp.exists_first hmem (hahead.imp_right (Nat.lt_trans hlt))
      obtain ⟨c', hc', hfirst'⟩ := hq.exists_first_of_done hreply hlt
      rw [Option.mem_unique hc' hc] at hfirst'
      exact absurd hfirst' (hdisjoint c hfirst)
    · exact hq.barred hreply hmem hahead

/-- If nothing was read, the place where it could have begun is the bar. -/
theorem Guarded.optional (hp : p.Guarded first bar) :
    (optional p).Guarded first fun found => found.elim first bar where
  composed := .optional hp.composed
  quiet hnone := (hp.quiet hnone).optional
  last hmem hnear hmem' :=
    hp.last (mem_trace_optional.mp hmem) hnear (mem_trace_optional.mp hmem')
  barred {text start column t found next} h hmem hahead := by
    have hmem := mem_trace_optional.mp hmem
    rcases reply_optional_eq_done.mp h with ⟨a, hread, rfl⟩ | ⟨-, rfl, rfl⟩
    · exact hp.barred hread hmem hahead
    · exact ⟨hp.composed.le_of_mem hmem, hp.exists_first hmem hahead⟩

theorem guarded_terminal (inside : t ≠ .endOfInput) :
    (terminal t).Guarded (t.CanBegin ·) fun _ _ => False where
  composed := .terminal inside
  quiet {text start} hnone := by
    constructor
    · intro column t' hmem
      obtain ⟨-, hentry⟩ := mem_trace_terminal.mp hmem
      cases hentry
      exact ⟨rfl, fun ⟨c, hc, hbegins⟩ => hnone c hc hbegins⟩
    · intro u next h
      obtain ⟨hstrip, -⟩ := reply_terminal_eq_done.mp h
      obtain ⟨c, hc, hbegins⟩ := Terminal.exists_canBegin_of_strip? inside hstrip
      have hhead : c ∈ text[start]? := by
        rwa [← List.head?_drop]
      exact absurd hbegins (hnone c hhead)
  last hmem _ hmem' := by
    obtain ⟨-, hentry⟩ := mem_trace_terminal.mp hmem
    obtain ⟨-, hentry'⟩ := mem_trace_terminal.mp hmem'
    cases hentry
    cases hentry'
    exact Nat.le_refl _
  barred h hmem _ := by
    obtain ⟨hstrip, -⟩ := reply_terminal_eq_done.mp h
    obtain ⟨hmissed, -⟩ := mem_trace_terminal.mp hmem
    rw [hstrip] at hmissed
    cases hmissed

/-- No character of a class is at the place where they end. -/
theorem not_isNear_after (text : List Char) (start : Nat) (cls : CharClass) :
    ¬IsNear text ((Cursor.ofColumn text start).after cls).column (.character cls) := by
  rintro ⟨c, hc, hbegins⟩
  have hnext := ((Cursor.ofColumn text start).passes_after cls).eq_ofColumn
  have hmissed := Terminal.strip?_character.mp (Composed.strip?_after (.ofColumn text start) cls)
  refine hmissed c ?_ (Terminal.canBegin_character.mp hbegins)
  rw [hnext]
  exact List.head?_drop.trans hc

theorem after_ofColumn {cls : CharClass} (h : ∀ c ∈ text[start]?, ¬cls.contains c) :
    (Cursor.ofColumn text start).after cls = .ofColumn text start := by
  refine after_of_head fun c hc => h c ?_
  rwa [← List.head?_drop]

/-- A parser that passes over the characters of a class and misses the class where they end. -/
theorem guarded_of_after {cls : CharClass} (hcomposed : Composed p)
    (htrace : ∀ cursor, (p cursor).trace = .missed (cursor.after cls).column (.character cls))
    (hdone : ∀ cursor a next, (p cursor).reply = .done a next → cursor.after cls = next) :
    p.Guarded (cls.contains ·) fun _ _ => False where
  composed := hcomposed
  quiet {text start} hnone := by
    have hafter := after_ofColumn hnone
    constructor
    · intro column t hmem
      rw [htrace] at hmem
      cases List.mem_singleton.mp hmem
      exact ⟨congrArg Cursor.column hafter, not_isNear_after text start cls⟩
    · intro a next h
      obtain rfl := hdone _ a next h
      exact congrArg Cursor.column hafter
  last hmem _ hmem' := by
    rw [htrace] at hmem hmem'
    cases List.mem_singleton.mp hmem
    cases List.mem_singleton.mp hmem'
    exact Nat.le_refl _
  barred h hmem hahead := by
    rw [htrace] at hmem
    cases List.mem_singleton.mp hmem
    obtain rfl := hdone _ _ _ h
    rcases hahead with hnear | hlt
    · exact absurd hnear (not_isNear_after _ _ cls)
    · exact absurd hlt (Nat.lt_irrefl _)

theorem guarded_skip (cls : CharClass) : (skip cls).Guarded (cls.contains ·) fun _ _ => False :=
  guarded_of_after (.skip cls) (fun _ => rfl) fun _ _ _ h => reply_skip_eq_done.mp h

theorem guarded_run (cls : CharClass) : (run cls).Guarded (cls.contains ·) fun _ _ => False :=
  guarded_of_after (.run cls) (fun _ => rfl) fun _ _ _ h => (reply_run_eq_done.mp h).2.2

end Parser

end TagQuery
