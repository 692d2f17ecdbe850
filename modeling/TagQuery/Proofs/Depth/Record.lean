import TagQuery.Proofs.Depth.Levels

/-!
# All that the rules come to is on record

* `ComesTo limit text act cursor`: in reading a text the rules come to an act at a place. This is said
  without the record, by the replies of the parsers that decide what is read next.
* `Recorded.steps_reading`: from such a place on, what reading for the act takes is on record.
* `Recorded.Accounts limit text p cursor`: from a place on a reader takes no steps but those that look
  for a terminal or that the rules come to. The rules are put together of such readers
  (`Recorded.accounts_wholeQuery`).
* `Grammar.mem_steps_iff`: the links, operands and negations on record are those that the rules come
  to, no more and no fewer.
-/

namespace TagQuery

/-- In reading a text the rules come to an act at a place. -/
inductive ComesTo (limit : Nat) (text : String) : Act → Cursor → Prop where
  | start : ComesTo limit text (.link 0 0) (.start text)
  /-- A link begins with an operand on its level. -/
  | operand {depth links : Nat} {cursor : Cursor} : ComesTo limit text (.link depth links) cursor →
      ComesTo limit text (.operand (depth + links)) cursor
  /-- After the operand and an operator comes the next link. -/
  | link {depth links : Nat} {cursor middle next : Cursor} {left : Expr} {op : Operator} :
      ComesTo limit text (.link depth links) cursor →
      (Parser.operand (limit + 1 - (depth + links)) cursor).reply = .done left middle →
      (Parser.operator middle).reply = .done op next →
      ComesTo limit text (.link depth (links + 1)) next
  /-- Without an operand a link may be a negation. -/
  | negation {depth links : Nat} {cursor : Cursor} : ComesTo limit text (.link depth links) cursor →
      (Parser.operand (limit + 1 - (depth + links)) cursor).reply = .mismatch →
      ComesTo limit text (.negation (depth + links)) cursor
  /-- After the word and the spaces around it comes what is negated. -/
  | negated {level : Nat} {cursor next : Cursor} : ComesTo limit text (.negation level) cursor →
      (Parser.keyword .not (cursor.after .space)).reply = .done () next →
      ComesTo limit text (.operand (level + 1)) (next.after .space)
  /-- After the parenthesis of a group comes a query of its own. -/
  | group {level : Nat} {cursor next : Cursor} (within : level ≤ limit) :
      ComesTo limit text (.operand level) cursor → (Parser.tag cursor).reply = .mismatch →
      (Parser.symbol .groupOpen cursor).reply = .done () next →
      ComesTo limit text (.link (level + 1) 0) next

namespace Recorded

open Rules

variable {limit levels depth links level : Nat} {text : String} {cursor next middle : Cursor}
  {act : Act} {step : Step} {left : Expr} {op : Operator}

/-! ## Steps of the rules -/

theorem mem_steps_marked {α : Type} {p : Recorded α} : step ∈ (marked act p).steps cursor ↔
    step = ⟨cursor.column, act⟩ ∨ step ∈ p.steps cursor :=
  List.mem_cons

theorem operand_steps_query (h : step ∈ (operand levels (depth + links)).steps cursor) :
    step ∈ (query levels depth links).steps cursor := by
  unfold Rules.operand at h
  unfold Rules.query
  cases levels with
  | zero => exact mem_steps_marked.mpr (.inr h)
  | succ below => exact mem_steps_marked.mpr (.inr (mem_steps_bind.mpr (.inl h)))

/-- The parser of an operand by its recorded parts. -/
theorem reply_operand (below level : Nat) (cursor : Cursor) :
    (Parser.operand (below + 1) cursor).reply =
      ((marked (.operand level) (tagOrGroup fun _ => query below (level + 1) 0)).parser cursor).reply := by
  have hparser := parser_operand (below + 1) level
  unfold Rules.operand at hparser
  rw [← hparser]
  rfl

theorem link_steps_query (hleft : (Parser.operand levels cursor).reply = .done left middle)
    (hop : (Parser.operator middle).reply = .done op next)
    (h : step ∈ (query (levels - 1) depth (links + 1)).steps next) :
    step ∈ (query levels depth links).steps cursor := by
  cases levels with
  | zero => cases hleft
  | succ below =>
    rw [reply_operand below (depth + links)] at hleft
    unfold Rules.query
    refine mem_steps_marked.mpr (.inr (mem_steps_bind.mpr (.inr ⟨some left, middle, ?_, ?_⟩)))
    · exact Parser.reply_optional_eq_done.mpr (.inl ⟨left, hleft, rfl⟩)
    · refine mem_steps_bind.mpr (.inr ⟨some op, next, ?_, mem_steps_bind.mpr (.inl h)⟩)
      exact Parser.reply_optional_eq_done.mpr (.inl ⟨op, hop, rfl⟩)

theorem negation_steps_query (hmiss : (Parser.operand levels cursor).reply = .mismatch)
    (h : step ∈ (marked (.negation (depth + links))
      (negation (operand (levels - 1) (depth + links + 1)))).steps cursor) :
    step ∈ (query levels depth links).steps cursor := by
  cases levels with
  | zero => cases hmiss
  | succ below =>
    rw [reply_operand below (depth + links)] at hmiss
    unfold Rules.query
    refine mem_steps_marked.mpr (.inr (mem_steps_bind.mpr (.inr ⟨none, cursor, ?_, h⟩)))
    exact Parser.reply_optional_eq_done.mpr (.inr ⟨hmiss, rfl, rfl⟩)

theorem operand_steps_negation {p : Recorded Expr}
    (hword : (Parser.keyword .not (cursor.after .space)).reply = .done () next)
    (h : step ∈ p.steps (next.after .space)) : step ∈ (negation p).steps cursor := by
  refine mem_steps_bind.mpr (.inr ⟨(), cursor.after .space, rfl, ?_⟩)
  refine mem_steps_bind.mpr (.inr ⟨(), next, hword, ?_⟩)
  refine mem_steps_bind.mpr (.inr ⟨(), next.after .space, rfl, ?_⟩)
  exact mem_steps_bind.mpr (.inl h)

theorem group_steps_operand (within : 0 < levels) (hmiss : (Parser.tag cursor).reply = .mismatch)
    (hopen : (Parser.symbol .groupOpen cursor).reply = .done () next)
    (h : step ∈ (query (levels - 1) (level + 1) 0).steps next) :
    step ∈ (operand levels level).steps cursor := by
  cases levels with
  | zero => exact absurd within (Nat.lt_irrefl 0)
  | succ below =>
    unfold Rules.operand
    refine mem_steps_marked.mpr (.inr (mem_steps_orElse.mpr (.inr ⟨?_, ?_⟩)))
    · exact Parser.reply_bind_eq_mismatch.mpr (.inl hmiss)
    · exact mem_steps_bind.mpr (.inr ⟨(), next, hopen, mem_steps_bind.mpr (.inl h)⟩)

/-! ## What the rules come to -/

/-- Reading for an act. Terminals are not among the acts that rules come to. -/
def reading (limit : Nat) : Act → Recorded Expr
  | .link depth links => query (limit + 1 - (depth + links)) depth links
  | .operand level => operand (limit + 1 - level) level
  | .negation level =>
    marked (.negation level) (negation (operand (limit + 1 - (level + 1)) (level + 1)))
  | .lookFor _ => tooDeep

/-- From where the rules come to an act, what reading for it takes is on record. -/
theorem steps_reading (h : ComesTo limit text act cursor) :
    ∀ step ∈ (reading limit act).steps cursor,
      step ∈ (Recorded.wholeQuery limit).steps (.start text) := by
  induction h with
  | start => exact fun step hstep => mem_steps_bind.mpr (.inl hstep)
  | operand _ ih => exact fun step hstep => ih step (operand_steps_query hstep)
  | link _ hleft hop ih => exact fun step hstep => ih step (link_steps_query hleft hop hstep)
  | negation _ hmiss ih => exact fun step hstep => ih step (negation_steps_query hmiss hstep)
  | negated _ hword ih =>
    exact fun step hstep => ih step (mem_steps_marked.mpr (.inr (operand_steps_negation hword hstep)))
  | group within _ hmiss hopen ih =>
    refine fun step hstep => ih step (group_steps_operand ?_ hmiss hopen hstep)
    omega

/-! ## What is on record -/

/-- A step that looks for a terminal, or an act that the rules come to at its column. -/
def Known (limit : Nat) (text : String) (step : Step) : Prop :=
  (∃ t, step.act = .lookFor t) ∨ ∃ place, place.column = step.column ∧ ComesTo limit text step.act place

/-- From a place on a reader takes no steps but known ones. -/
def Accounts (limit : Nat) (text : String) {α : Type} (p : Recorded α) (cursor : Cursor) : Prop :=
  ∀ step ∈ p.steps cursor, Known limit text step

namespace Accounts

variable {α β : Type} {p q : Recorded α} {f : α → Recorded β}

theorem pure (a : α) (cursor : Cursor) : Accounts limit text (Pure.pure a) cursor :=
  fun _ h => nomatch h

theorem tooDeep (cursor : Cursor) : Accounts limit text (tooDeep : Recorded α) cursor :=
  fun _ h => nomatch h

theorem bind (hp : Accounts limit text p cursor) (hf : ∀ a next,
    (p.parser cursor).reply = .done a next → Accounts limit text (f a) next) :
    Accounts limit text (p >>= f) cursor := by
  intro step hstep
  rcases mem_steps_bind.mp hstep with hstep | ⟨a, next, ha, hstep⟩
  · exact hp step hstep
  · exact hf a next ha step hstep

theorem orElse (hp : Accounts limit text p cursor)
    (hq : (p.parser cursor).reply = .mismatch → Accounts limit text q cursor) :
    Accounts limit text (orElse p q) cursor := by
  intro step hstep
  rcases mem_steps_orElse.mp hstep with hstep | ⟨hmiss, hstep⟩
  · exact hp step hstep
  · exact hq hmiss step hstep

theorem optional (hp : Accounts limit text p cursor) : Accounts limit text (optional p) cursor :=
  hp

theorem terminal (t : Terminal) (cursor : Cursor) : Accounts limit text (terminal t) cursor := by
  intro step hstep
  obtain rfl := List.mem_singleton.mp hstep
  exact .inl ⟨t, rfl⟩

theorem skip (cls : CharClass) (cursor : Cursor) : Accounts limit text (skip cls) cursor :=
  fun _ hstep => .inl ⟨.character cls, (mem_stepsThrough.mp hstep).1⟩

theorem run (cls : CharClass) (cursor : Cursor) : Accounts limit text (run cls) cursor :=
  fun _ hstep => .inl ⟨.character cls, (mem_stepsThrough.mp hstep).1⟩

/-- An act has to be one that the rules come to. -/
theorem marked (h : ComesTo limit text act cursor) (hp : Accounts limit text p cursor) :
    Accounts limit text (marked act p) cursor := by
  intro step hstep
  rcases mem_steps_marked.mp hstep with rfl | hstep
  · exact .inr ⟨cursor, rfl, h⟩
  · exact hp step hstep

end Accounts

/-- Tags and operators only look for terminals. -/
theorem respectsText_accounts :
    RespectsText Recorded Recorded fun p _ => ∀ cursor, Accounts limit text p cursor where
  pure := .pure
  bind hp hf cursor := (hp cursor).bind fun a next _ => hf a next
  orElse hp hq cursor := (hp cursor).orElse fun _ => hq cursor
  optional hp cursor := (hp cursor).optional
  symbol _ := .terminal _
  keyword _ := .terminal _
  skip := .skip
  run := .run

/-- Behind its parenthesis a group is read as a query that the rules come to. -/
theorem accounts_tagOrGroup {below : Nat} (within : level ≤ limit)
    (h : ComesTo limit text (.operand level) cursor)
    (hgroup : ∀ next, ComesTo limit text (.link (level + 1) 0) next →
      Accounts limit text (query below (level + 1) 0) next) :
    Accounts limit text (tagOrGroup fun _ => query below (level + 1) 0) cursor := by
  apply Accounts.orElse
  · exact (respectsText_accounts.tag cursor).bind fun t next _ => .pure _ next
  intro hmiss
  have hmiss : (Parser.tag cursor).reply = .mismatch := by
    rcases Parser.reply_bind_eq_mismatch.mp hmiss with hmiss | ⟨t, next, -, hpure⟩
    · exact hmiss
    · cases hpure
  apply Accounts.bind (.terminal _ cursor)
  intro _ next hopen
  apply Accounts.bind (hgroup next (.group within h hmiss hopen))
  intro e last _
  exact .bind (.terminal _ last) fun _ next _ => .pure e next

/-- Behind its word a negation reads an operand that the rules come to. -/
theorem accounts_negation {p : Recorded Expr} (h : ComesTo limit text (.negation level) cursor)
    (hoperand : ∀ next, ComesTo limit text (.operand (level + 1)) next → Accounts limit text p next) :
    Accounts limit text (negation p) cursor := by
  apply Accounts.bind (.skip _ cursor)
  rintro _ _ ⟨⟩
  apply Accounts.bind (.terminal _ _)
  intro _ next hword
  apply Accounts.bind (.skip _ next)
  rintro _ _ ⟨⟩
  exact .bind (hoperand _ (.negated h hword)) fun e last _ => .pure _ last

/-- Behind an operator a chain goes on with a link that the rules come to. -/
theorem accounts_chain {below : Nat} (hlink : ∀ op next,
    (Parser.operator cursor).reply = .done op next →
      Accounts limit text (query below depth (links + 1)) next) :
    Accounts limit text (chain left (query below depth (links + 1))) cursor := by
  apply Accounts.bind (Accounts.optional (respectsText_accounts.operator cursor))
  intro found next hfound
  rcases Parser.reply_optional_eq_done.mp hfound with ⟨op, hop, rfl⟩ | ⟨-, rfl, -⟩
  · exact (hlink op next hop).bind fun e last _ => .pure _ last
  · exact .pure left next

mutual

theorem accounts_query (levels depth links : Nat) {cursor : Cursor}
    (hlevels : depth + links + levels = limit + 1) (h : ComesTo limit text (.link depth links) cursor) :
    Accounts limit text (query levels depth links) cursor := by
  unfold Rules.query
  apply Accounts.marked h
  match levels with
  | 0 => exact .marked h.operand (.tooDeep cursor)
  | below + 1 =>
    have hbelow : limit + 1 - (depth + links) = below + 1 := by omega
    apply Accounts.bind
    · refine Accounts.optional (.marked h.operand (accounts_tagOrGroup (by omega) h.operand ?_))
      exact fun next hnext => accounts_query below (depth + links + 1) 0 (by omega) hnext
    intro found next hfound
    rcases Parser.reply_optional_eq_done.mp hfound with ⟨left, hleft, rfl⟩ | ⟨hmiss, rfl, rfl⟩
    · have hleft := (reply_operand below (depth + links) cursor).trans hleft
      rw [← hbelow] at hleft
      apply accounts_chain
      exact fun op last hop => accounts_query below depth (links + 1) (by omega) (h.link hleft hop)
    · have hmiss := (reply_operand below (depth + links) next).trans hmiss
      rw [← hbelow] at hmiss
      refine .marked (h.negation hmiss) (accounts_negation (h.negation hmiss) ?_)
      exact fun after hafter => accounts_operand below (depth + links + 1) (by omega) hafter

theorem accounts_operand (levels level : Nat) {cursor : Cursor}
    (hlevels : level + levels = limit + 1) (h : ComesTo limit text (.operand level) cursor) :
    Accounts limit text (operand levels level) cursor := by
  unfold Rules.operand
  apply Accounts.marked h
  match levels with
  | 0 => exact .tooDeep cursor
  | below + 1 =>
    apply accounts_tagOrGroup (by omega) h
    exact fun next hnext => accounts_query below (level + 1) 0 (by omega) hnext

end

theorem accounts_wholeQuery (limit : Nat) (text : String) :
    Accounts limit text (Recorded.wholeQuery limit) (.start text) := by
  apply Accounts.bind (accounts_query (limit + 1) 0 0 (Nat.zero_add _) .start)
  intro e last _
  exact .bind (.terminal _ last) fun _ next _ => .pure e next

theorem mark_mem_reading (hact : ∀ t, act ≠ .lookFor t) :
    ⟨cursor.column, act⟩ ∈ (reading limit act).steps cursor := by
  cases act with
  | link depth links =>
    simp only [reading]
    unfold Rules.query
    exact mem_steps_marked.mpr (.inl rfl)
  | operand level =>
    simp only [reading]
    unfold Rules.operand
    exact mem_steps_marked.mpr (.inl rfl)
  | negation level => exact mem_steps_marked.mpr (.inl rfl)
  | lookFor t => exact absurd rfl (hact t)

end Recorded

/-- **Nothing is left out of the record.** A link, an operand or a negation is on record at a column
exactly if the rules come to it there. -/
theorem Grammar.mem_steps_iff {g : Grammar} {text : String} {column : Nat} {act : Act}
    (hact : ∀ t, act ≠ .lookFor t) : ⟨column, act⟩ ∈ g.steps text ↔
      ∃ place, place.column = column ∧ ComesTo g.maxDepth text act place := by
  constructor
  · intro hstep
    rcases Recorded.accounts_wholeQuery g.maxDepth text _ hstep with ⟨t, ht⟩ | hplace
    · exact absurd ht (hact t)
    · exact hplace
  · rintro ⟨place, rfl, hcomes⟩
    exact Recorded.steps_reading hcomes _ (Recorded.mark_mem_reading hact)

end TagQuery
