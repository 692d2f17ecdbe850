import TagQuery.Proofs.Language.Progress
import TagQuery.Proofs.Language.Spelling
import TagQuery.Proofs.Parser.Guarded

/-!
# One character decides

The rules of the language with respect to near misses (`IsNear`).

* After a tag there may be a `+` that belongs to nothing (`Parser.guarded_tag`), and after a query
  whatever does not close it (`Parser.guarded_query`).
* `Parser.wholeQuery_last`: a near miss is the end of a query. Nothing is missed behind it.
-/

namespace TagQuery.Parser

variable {α : Type}

/-! ## First characters

Alternatives begin differently, and so does what may come next. -/

theorem eq_of_canBegin_opening {kind kind' : TagKind} {c : Char}
    (h : (Terminal.symbol (.opening kind)).CanBegin c)
    (h' : (Terminal.symbol (.opening kind')).CanBegin c) : kind = kind' := by
  have hhead := (Terminal.canBegin_symbol.mp h).trans (Terminal.canBegin_symbol.mp h').symm
  cases kind <;> cases kind' <;> first | rfl | exact absurd hhead (by decide)

theorem mem_tagOpenings {kind : TagKind} {c : Char}
    (h : (Terminal.symbol (.opening kind)).CanBegin c) : c ∈ tagOpenings := by
  have hhead := Terminal.canBegin_symbol.mp h
  cases kind <;> cases hhead <;> decide

theorem eq_of_canBegin_operator {op op' : Operator} {c : Char}
    (h : (Terminal.keyword (.operator op)).CanBegin c)
    (h' : (Terminal.keyword (.operator op')).CanBegin c) : op = op' := by
  have hhead := (Terminal.toUpper_of_canBegin h).symm.trans (Terminal.toUpper_of_canBegin h')
  cases op <;> cases op' <;> first | rfl | exact absurd hhead (by decide)

/-- Where a keyword may stand, with spaces in front. -/
def BeginsJoint (c : Char) : Prop :=
  c = ' ' ∨ ∃ k, (Terminal.keyword k).CanBegin c

/-- An operand, a `+` and a closing parenthesis begin otherwise. -/
theorem BeginsJoint.not_mem {c : Char} (h : BeginsJoint c) : c ∉ operandOpenings ++ ['+', ')'] := by
  rcases h with rfl | ⟨k, hbegins⟩
  · decide
  · exact fun hmem => not_mem_of_toUpper (Terminal.toUpper_of_canBegin hbegins)
      (List.mem_cons_of_mem _ hmem)

/-! ## Tags -/

theorem guarded_symbol (s : Symbol) :
    (symbol s).Guarded ((Terminal.symbol s).CanBegin ·) fun _ _ => False :=
  guarded_terminal nofun

theorem guarded_keyword (k : Keyword) :
    (keyword k).Guarded ((Terminal.keyword k).CanBegin ·) fun _ _ => False :=
  guarded_terminal nofun

/-- What a symbol opens begins with the symbol, whatever comes next. -/
theorem Guarded.opened {p : Parser α} {bar : α → Char → Prop}
    (h : p.Guarded (fun _ => True) bar) (s : Symbol) :
    (symbol s >>= fun _ => p).Guarded ((Terminal.symbol s).CanBegin ·) bar :=
  (guarded_symbol s).bind_clear (fun _ => h) (.inr (consumes_symbol s))

/-- What a symbol closes after a run. -/
theorem guarded_enclosed (cls : CharClass) (s : Symbol) (g : String → α) :
    (run cls >>= fun text => symbol s >>= fun _ => Pure.pure (g text)).Guarded (fun _ => True)
      fun _ _ => False := by
  have hrun : (run cls).Guarded (fun _ => True) fun _ _ => False :=
    (guarded_run cls).mono (fun _ _ => trivial) nofun
  have hclose : ∀ text, (symbol s >>= fun _ => Pure.pure (g text)).Guarded
      ((Terminal.symbol s).CanBegin ·) fun _ _ => False :=
    fun text => (guarded_symbol s).map (fun _ => g text) nofun
  exact hrun.bind_clear hclose (.inl fun _ _ => trivial)

theorem guarded_value : value.Guarded (fun _ => True) fun _ _ => False := by
  have hquoted : quotedValue.Guarded ((Terminal.symbol .quotationMark).CanBegin ·)
      fun _ _ => False :=
    (guarded_enclosed .unquoted .quotationMark id).opened .quotationMark
  have hconsumes : Consumes quotedValue := (consumes_symbol _).bind fun _ =>
    (forward_run .unquoted).bind fun _ => (forward_terminal _).bind fun _ => forward_pure _
  refine ((guarded_run .word).orElse hquoted (fun c hword hmark => ?_) hconsumes).mono
    (fun _ _ => trivial) nofun
  cases Terminal.canBegin_symbol.mp hmark
  cases hword

theorem guarded_tagOfKind (kind : TagKind) :
    (tagOfKind kind).Guarded ((Terminal.symbol (.opening kind)).CanBegin ·) fun _ c => c = '+' := by
  refine Guarded.opened ?_ (.opening kind)
  cases kind with
  | semantic =>
    have hsynonyms : ∀ text, (optional (symbol .synonyms) >>= fun found =>
        Pure.pure (Tag.semantic text found.isSome)).Guarded
          ((Terminal.symbol .synonyms).CanBegin ·) fun _ c => c = '+' := by
      refine fun text => (guarded_symbol .synonyms).optional.map _ fun found _ c h => ?_
      cases found with
      | some _ => exact absurd h id
      | none =>
        cases Terminal.canBegin_symbol.mp h
        rfl
    exact guarded_value.bind_clear hsynonyms (.inl fun _ _ => trivial)
  | keyword => exact guarded_value.map _ nofun
  | comment => exact guarded_value.map _ nofun
  | regex => exact (guarded_enclosed .pattern .patternEnd Tag.regex).mono (fun _ h => h) nofun

theorem guarded_tag : tag.Guarded (· ∈ tagOpenings) fun _ c => c = '+' := by
  have hdiffer : ∀ {kind kind' : TagKind} {c : Char}, kind ≠ kind' →
      (Terminal.symbol (.opening kind)).CanBegin c →
      ¬(Terminal.symbol (.opening kind')).CanBegin c :=
    fun hne h h' => hne (eq_of_canBegin_opening h h')
  have hcomment := (guarded_tagOfKind .comment).orElse (guarded_tagOfKind .regex)
    (fun _ => hdiffer (by decide)) (consumes_tagOfKind _)
  have hkeyword := (guarded_tagOfKind .keyword).orElse hcomment
    (fun _ h h' => h'.elim (hdiffer (by decide) h) (hdiffer (by decide) h))
    ((consumes_tagOfKind _).orElse (consumes_tagOfKind _))
  have hsemantic := (guarded_tagOfKind .semantic).orElse hkeyword
    (fun _ h h' => h'.elim (hdiffer (by decide) h) fun h' =>
      h'.elim (hdiffer (by decide) h) (hdiffer (by decide) h))
    ((consumes_tagOfKind _).orElse ((consumes_tagOfKind _).orElse (consumes_tagOfKind _)))
  refine hsemantic.mono (fun c h => ?_) fun _ _ h => h
  rcases h with h | h | h | h <;> exact mem_tagOpenings h

/-! ## Operands and queries -/

theorem guarded_tagOrGroup {inner : Parser Expr}
    (h : inner.Guarded (fun _ => True) fun _ c => c ≠ ')') (hforward : Forward inner) :
    (tagOrGroup inner).Guarded (· ∈ operandOpenings) fun _ c => c = '+' := by
  have hclose : ∀ e : Expr, (symbol .groupClose >>= fun _ => Pure.pure e).Guarded
      ((Terminal.symbol .groupClose).CanBegin ·) fun _ c => c = '+' :=
    fun e => (guarded_symbol _).map (fun _ => e) nofun
  have hgroup : (group inner).Guarded ((Terminal.symbol .groupOpen).CanBegin ·)
      fun _ c => c = '+' := by
    refine (h.bind _ hclose (fun _ c hc hclose => hc ?_) (fun _ => .inl fun _ _ => trivial)
      fun _ => .inr ((consumes_symbol _).bind fun _ => forward_pure _)).opened .groupOpen
    cases Terminal.canBegin_symbol.mp hclose
    rfl
  have htag : (tag >>= fun t => Pure.pure (Expr.tag t)).Guarded (· ∈ tagOpenings) fun _ c => c = '+' :=
    guarded_tag.map _ fun _ _ _ h => h
  have hconsumes : Consumes (group inner) := (consumes_symbol _).bind fun _ =>
    hforward.bind fun _ => (forward_terminal _).bind fun _ => forward_pure _
  refine (htag.orElse hgroup (fun c htag hopen => ?_) hconsumes).mono (fun c h => ?_) fun _ _ h => h
  · cases Terminal.canBegin_symbol.mp hopen
    exact absurd htag (by decide)
  · rcases h with htag | hopen
    · exact List.mem_cons_of_mem _ htag
    · cases Terminal.canBegin_symbol.mp hopen
      exact List.mem_cons_self

theorem guarded_gap : gap.Guarded BeginsJoint fun _ _ => False :=
  (guarded_skip .space).mono (fun _ h => .inl (beq_iff_eq.mp h)) nofun

theorem guarded_operator : operator.Guarded BeginsJoint fun _ _ => False := by
  have hword : ∀ op, (operatorWord op).Guarded ((Terminal.keyword (.operator op)).CanBegin ·)
      fun _ _ => False := fun op => (guarded_keyword _).map (fun _ => op) nofun
  have hdiffer : ∀ {op op' : Operator} {c : Char}, op ≠ op' →
      (Terminal.keyword (.operator op)).CanBegin c →
      ¬(Terminal.keyword (.operator op')).CanBegin c :=
    fun hne h h' => hne (eq_of_canBegin_operator h h')
  have hor := (hword .or).orElse (hword .xor) (fun _ => hdiffer (by decide)) (consumes_operatorWord _)
  have hand := (hword .and).orElse hor
    (fun _ h h' => h'.elim (hdiffer (by decide) h) (hdiffer (by decide) h))
    ((consumes_operatorWord _).orElse (consumes_operatorWord _))
  have hwords : (orElse (operatorWord .and) (orElse (operatorWord .or) (operatorWord .xor))).Guarded
      BeginsJoint fun _ _ => False := by
    refine hand.mono (fun c h => ?_) nofun
    rcases h with h | h | h <;> exact .inr ⟨_, h⟩
  have hend : ∀ op, (gap >>= fun _ => Pure.pure op : Parser Operator).Guarded BeginsJoint
      fun _ _ => False := fun op => guarded_gap.map (fun _ => op) nofun
  have hthen := hwords.bind_clear hend (.inl fun _ => id)
  exact guarded_gap.bind_clear (fun _ => hthen) (.inl fun _ => id)

theorem guarded_negation {p : Parser Expr} {first : Char → Prop}
    (h : p.Guarded first fun _ c => c = '+') :
    (negation p).Guarded BeginsJoint fun _ c => c = '+' := by
  have hoperand : (p >>= fun e => Pure.pure (Expr.negation e)).Guarded (fun _ => True)
      fun _ c => c = '+' := (h.mono (fun _ _ => trivial) fun _ _ => id).map _ fun _ _ _ => id
  have hgap : gap.Guarded (fun _ => True) fun _ _ => False :=
    guarded_gap.mono (fun _ _ => trivial) nofun
  have hword : (keyword .not).Guarded BeginsJoint fun _ _ => False :=
    (guarded_keyword .not).mono (fun _ hbegins => .inr ⟨.not, hbegins⟩) nofun
  have hafter := hgap.bind_clear (fun _ => hoperand) (.inl fun _ => id)
  have hthen := hword.bind_clear (fun _ => hafter) (.inr (consumes_keyword .not))
  exact guarded_gap.bind_clear (fun _ => hthen) (.inl fun _ => id)

/-- A chain of operators may come after its first operand, or else the query ends there. -/
theorem guarded_chain {right : Parser Expr} (h : right.Guarded (fun _ => True) fun _ c => c ≠ ')')
    (left : Expr) :
    (chain left right).Guarded BeginsJoint fun _ c => c ≠ ')' := by
  refine guarded_operator.optional.bind (fun found _ => found.isSome = true) (fun found => ?_)
    (fun found c hbar => ?_) (fun found => ?_) fun found => ?_
  · cases found with
    | some op =>
      exact (h.mono (fun _ _ => rfl) fun _ _ => id).map _ fun _ _ _ => id
    | none => exact guarded_pure left
  · cases found with
    | some op => exact absurd hbar id
    | none => exact nofun
  · cases found with
    | some op =>
      refine .inr fun cursor next hreply => ?_
      rcases reply_optional_eq_done.mp hreply with ⟨op, hop, -⟩ | ⟨-, hnone, -⟩
      · exact (consumes_operator cursor op next hop).2
      · cases hnone
    | none => exact .inl nofun
  · refine .inl fun _ c hbar => ?_
    cases found with
    | some op => exact absurd hbar id
    | none =>
      rintro rfl
      exact BeginsJoint.not_mem hbar (by decide)

/-- Where the reader looked further than a query reaches, there stands no closing parenthesis. -/
theorem guarded_query (levels : Nat) :
    (query levels).Guarded (fun _ => True) fun _ c => c ≠ ')' := by
  refine (query_induction (P := fun _ p => p.Guarded (fun _ => True) fun _ c => c ≠ ')')
    (Q := fun _ p => p.Guarded (fun _ => True) fun _ c => c = '+') ?_ ?_ ?_ ?_ levels).1
  · exact guarded_tooDeep
  · intro below hquery hoperand
    have hfirst := (guarded_tagOrGroup hquery (forward_query below)).optional
    refine Guarded.bind (hfirst.mono (fun _ _ => trivial) fun _ _ => id) (fun _ => BeginsJoint)
      (fun found => ?_) (fun found c hbar hjoint => hjoint.not_mem ?_)
      (fun _ => .inl fun _ _ => trivial) fun found => .inl fun _ c hbar => ?_
    · cases found with
      | some left => exact guarded_chain hquery left
      | none =>
        refine (guarded_negation hoperand).mono (fun _ => id) fun _ c hplus => ?_
        rw [hplus]
        decide
    · cases found with
      | some left =>
        obtain rfl : c = '+' := hbar
        decide
      | none => exact List.mem_append_left _ hbar
    · rintro rfl
      cases found with
      | some left => exact absurd (show ')' = '+' from hbar) (by decide)
      | none => exact absurd (show ')' ∈ operandOpenings from hbar) (by decide)
  · exact guarded_tooDeep
  · intro below hquery
    exact (guarded_tagOrGroup hquery (forward_query below)).mono (fun _ _ => trivial) fun _ _ => id

/-- Nothing is missed behind a near miss. -/
theorem wholeQuery_last {limit : Nat} {text : List Char} {column later : Nat} {t t' : Terminal}
    (hmem : (column, t) ∈ (wholeQuery limit (.ofColumn text 0)).trace.toList)
    (hnear : IsNear text column t)
    (hmem' : (later, t') ∈ (wholeQuery limit (.ofColumn text 0)).trace.toList) :
    later ≤ column := by
  have hguarded := guarded_query (limit + 1)
  rcases mem_trace_wholeQuery.mp hmem with hmem | ⟨e, next, -, -, hentry⟩
  · rcases mem_trace_wholeQuery.mp hmem' with hmem' | ⟨e, next, hreply, -, hentry⟩
    · exact hguarded.last hmem hnear hmem'
    · cases hentry
      exact (hguarded.barred hreply hmem (.inl hnear)).1
  · cases hentry
    obtain ⟨c, -, word, hword⟩ := hnear
    cases hword

end TagQuery.Parser
