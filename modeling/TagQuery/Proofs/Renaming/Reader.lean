import TagQuery.Proofs.Grammar
import TagQuery.Proofs.Parser.Outcome
import TagQuery.Proofs.Parser.Shift
import TagQuery.Proofs.Renaming.Text

/-!
# Renamed texts, and texts further on

A parser knows where it is only to tell where it missed a terminal, and it takes no notice of which
character beyond ASCII it reads. So it does the same on a renamed text that begins at a later
column.

* `Parser.Carries r columns p f q`: on the renamed text, so many columns further on, `q` does what
  `p` does, but for the value, which `f` changes. Columns and the trace are shifted as well.
* `Parser.carries_query`, `Parser.carries_wholeQuery`: so do all rules, with `Expr.rename r` for `f`.
* `Parser.wholeQuery_further`: a text further on, with no other characters in it.
* `Grammar.parse_rename`: a grammar gives the renamed result on a renamed text.
-/

namespace TagQuery

variable {α β γ δ : Type}

/-! ## Cursors and outcomes -/

/-- The same place in the renamed text, so many columns further on. -/
def Cursor.carry (r : Renaming) (columns : Nat) (cursor : Cursor) : Cursor :=
  ⟨columns + cursor.column, cursor.rest.map r.map⟩

theorem Cursor.takeWhile_carry (r : Renaming) (columns : Nat) (cursor : Cursor) (cls : CharClass) :
    (cursor.carry r columns).rest.takeWhile cls.contains =
      (cursor.rest.takeWhile cls.contains).map r.map := by
  have hclass : cls.contains ∘ r.map = cls.contains := funext (r.contains_map cls)
  simp [carry, List.takeWhile_map, hclass]

theorem Cursor.after_carry (r : Renaming) (columns : Nat) (cursor : Cursor) (cls : CharClass) :
    (cursor.carry r columns).after cls = (cursor.after cls).carry r columns := by
  have hclass : cls.contains ∘ r.map = cls.contains := funext (r.contains_map cls)
  simp [after, carry, List.takeWhile_map, List.dropWhile_map, hclass, Nat.add_assoc]

/-- A reply about the renamed text, with the value changed. -/
def Reply.carry (r : Renaming) (columns : Nat) (f : α → β) : Reply α → Reply β
  | done value next => done (f value) (next.carry r columns)
  | mismatch => mismatch
  | tooDeep column => tooDeep (columns + column)

/-- An outcome on the renamed text, with the value changed. -/
def Outcome.carry (r : Renaming) (columns : Nat) (f : α → β) (x : Outcome α) : Outcome β :=
  ⟨x.reply.carry r columns f, x.trace.shift columns⟩

/-! ## Combinators -/

namespace Parser

/-- On a renamed text, so many columns further on, `q` does what `p` does on the text, with the value
changed by `f`. -/
def Carries (r : Renaming) (columns : Nat) (p : Parser α) (f : α → β) (q : Parser β) : Prop :=
  ∀ cursor, q (cursor.carry r columns) = (p cursor).carry r columns f

variable {r : Renaming} {columns : Nat}

theorem carries_pure (f : α → β) (a : α) :
    Carries r columns (Pure.pure a) f (Pure.pure (f a)) :=
  fun _ => rfl

theorem Carries.bind {p : Parser α} {q : Parser β} {f : α → β} {p' : α → Parser γ}
    {q' : β → Parser δ} {g : γ → δ} (hp : Carries r columns p f q)
    (hthen : ∀ a, Carries r columns (p' a) g (q' (f a))) :
    Carries r columns (p >>= p') g (q >>= q') := by
  intro cursor
  have hcarry := hp cursor
  rcases hcursor : p cursor with ⟨⟨a, next⟩ | _ | deep, trace⟩
  · rw [hcursor] at hcarry
    rw [bind_of_done hcursor, bind_of_done hcarry, hthen a next]
    rfl
  · rw [hcursor] at hcarry
    rw [bind_of_mismatch hcursor, bind_of_mismatch hcarry]
    rfl
  · rw [hcursor] at hcarry
    rw [bind_of_tooDeep hcursor, bind_of_tooDeep hcarry]
    rfl

theorem Carries.orElse {p p' : Parser α} {q q' : Parser β} {f : α → β}
    (hp : Carries r columns p f q) (hp' : Carries r columns p' f q') :
    Carries r columns (orElse p p') f (orElse q q') := by
  intro cursor
  have hcarry := hp cursor
  rcases hcursor : p cursor with ⟨⟨a, next⟩ | _ | deep, trace⟩
  · rw [hcursor] at hcarry
    rw [orElse_of_done hcursor, orElse_of_done hcarry]
    rfl
  · rw [hcursor] at hcarry
    rw [orElse_of_mismatch hcursor, orElse_of_mismatch hcarry, hp' cursor]
    rfl
  · rw [hcursor] at hcarry
    rw [orElse_of_tooDeep hcursor, orElse_of_tooDeep hcarry]
    rfl

theorem Carries.optional {p : Parser α} {q : Parser β} {f : α → β}
    (hp : Carries r columns p f q) :
    Carries r columns (optional p) (Option.map f) (optional q) := by
  intro cursor
  have hcarry := hp cursor
  rcases hcursor : p cursor with ⟨⟨a, next⟩ | _ | deep, trace⟩
  · rw [hcursor] at hcarry
    rw [optional_of_done hcursor, optional_of_done hcarry]
    rfl
  · rw [hcursor] at hcarry
    rw [optional_of_mismatch hcursor, optional_of_mismatch hcarry]
    rfl
  · rw [hcursor] at hcarry
    rw [optional_of_tooDeep hcursor, optional_of_tooDeep hcarry]
    rfl

theorem carries_tooDeep (f : α → β) : Carries r columns tooDeep f tooDeep :=
  fun _ => rfl

theorem carries_terminal (t : Terminal) : Carries r columns (terminal t) id (terminal t) := by
  intro cursor
  -- The column does not enter into whether the terminal is there.
  have hstrip : t.strip? (cursor.carry r columns).rest = _ := r.strip?_map t cursor.rest
  cases hrest : t.strip? cursor.rest with
  | none =>
    rw [hrest] at hstrip
    rw [terminal_of_none hrest, terminal_of_none hstrip]
    rfl
  | some rest =>
    rw [hrest] at hstrip
    rw [terminal_of_some hrest, terminal_of_some hstrip]
    simp [Cursor.carry, Outcome.carry, Reply.carry, Trace.shift, Nat.add_assoc]

theorem carries_skip (cls : CharClass) : Carries r columns (skip cls) id (skip cls) := by
  intro cursor
  simp only [skip, Cursor.after_carry]
  rfl

theorem carries_run (cls : CharClass) : Carries r columns (run cls) r.text (run cls) := by
  intro cursor
  simp only [run, Cursor.after_carry, Cursor.takeWhile_carry, List.isEmpty_map, ← r.text_ofList]
  by_cases hempty : (cursor.rest.takeWhile cls.contains).isEmpty
  · simp only [hempty, if_true]
    rfl
  · simp only [hempty]
    rfl

/-! ## Tags -/

theorem carries_value : Carries r columns value r.text value :=
  (carries_run .word).orElse <| (carries_terminal _).bind fun _ => (carries_run .unquoted).bind
    fun _ => (carries_terminal _).bind fun _ => carries_pure r.text _

theorem carries_tagOfKind (kind : TagKind) :
    Carries r columns (tagOfKind kind) (Tag.rename r) (tagOfKind kind) := by
  refine (carries_terminal _).bind fun _ => ?_
  cases kind with
  | semantic =>
    refine carries_value.bind fun text => (carries_terminal _).optional.bind fun found => ?_
    cases found with
    | some _ => exact carries_pure (Tag.rename r) (Tag.semantic text true)
    | none => exact carries_pure (Tag.rename r) (Tag.semantic text false)
  | keyword => exact carries_value.bind fun text => carries_pure (Tag.rename r) (Tag.keyword text)
  | comment => exact carries_value.bind fun text => carries_pure (Tag.rename r) (Tag.comment text)
  | regex =>
    exact (carries_run .pattern).bind fun text => (carries_terminal _).bind fun _ =>
      carries_pure (Tag.rename r) (Tag.regex text)

theorem carries_tag : Carries r columns tag (Tag.rename r) tag :=
  (carries_tagOfKind _).orElse <| (carries_tagOfKind _).orElse <|
    (carries_tagOfKind _).orElse (carries_tagOfKind _)

/-! ## Operands and queries -/

variable {inner : Parser Expr}

theorem carries_tagOrGroup (h : Carries r columns inner (Expr.rename r) inner) :
    Carries r columns (tagOrGroup inner) (Expr.rename r) (tagOrGroup inner) := by
  refine (carries_tag.bind fun t => carries_pure (Expr.rename r) (Expr.tag t)).orElse ?_
  exact (carries_terminal _).bind fun _ => h.bind fun e => (carries_terminal _).bind fun _ =>
    carries_pure (Expr.rename r) e

theorem carries_operator : Carries r columns operator id operator := by
  have hword : ∀ op, Carries r columns (operatorWord op) id (operatorWord op) := fun op =>
    (carries_terminal _).bind fun _ => carries_pure id op
  refine (carries_skip .space).bind fun _ => ?_
  refine ((hword _).orElse ((hword _).orElse (hword _))).bind fun op => ?_
  exact (carries_skip .space).bind fun _ => carries_pure id op

theorem carries_chain (left : Expr) (h : Carries r columns inner (Expr.rename r) inner) :
    Carries r columns (chain left inner) (Expr.rename r) (chain (left.rename r) inner) := by
  refine carries_operator.optional.bind fun found => ?_
  cases found with
  | some op => exact h.bind fun right => carries_pure (Expr.rename r) (Expr.binary op left right)
  | none => exact carries_pure (Expr.rename r) left

theorem carries_negation (h : Carries r columns inner (Expr.rename r) inner) :
    Carries r columns (negation inner) (Expr.rename r) (negation inner) :=
  (carries_skip .space).bind fun _ => (carries_terminal _).bind fun _ =>
    (carries_skip .space).bind fun _ => h.bind fun e =>
      carries_pure (Expr.rename r) (Expr.negation e)

theorem carries_query (levels : Nat) :
    Carries r columns (query levels) (Expr.rename r) (query levels) := by
  -- On the levels that are left. A chain goes on one level down, as does what `NOT` stands before.
  refine (query_induction (P := fun _ p => Carries r columns p (Expr.rename r) p)
    (Q := fun _ p => Carries r columns p (Expr.rename r) p) ?_ ?_ ?_ ?_ levels).1
  · exact carries_tooDeep _
  · intro below hquery hoperand
    refine (carries_tagOrGroup hquery).optional.bind fun found => ?_
    cases found with
    | some left => exact carries_chain left hquery
    | none => exact carries_negation hoperand
  · exact carries_tooDeep _
  · exact fun below hquery => carries_tagOrGroup hquery

theorem carries_wholeQuery (limit : Nat) :
    Carries r columns (wholeQuery limit) (Expr.rename r) (wholeQuery limit) :=
  (carries_query _).bind fun e => (carries_terminal _).bind fun _ =>
    carries_pure (Expr.rename r) e

/-- A text that begins at a later column is read as if it began at the first. -/
theorem wholeQuery_further (limit columns : Nat) (text : List Char) :
    wholeQuery limit ⟨columns, text⟩ =
      (wholeQuery limit ⟨0, text⟩).carry .refl columns (Expr.rename .refl) := by
  have hstart : (⟨columns, text⟩ : Cursor) = (Cursor.mk 0 text).carry .refl columns := by
    simp [Cursor.carry, Renaming.refl]
  exact hstart ▸ carries_wholeQuery limit ⟨0, text⟩

end Parser

/-! ## The result -/

namespace Grammar

/-- **Characters beyond ASCII are all alike.** If other characters beyond ASCII are put in the place
of those in a text, the result is the same, apart from these characters: the values in the
expression change with them, and so does the character that an explanation found. Columns count
characters, so they stay. The canonical text of every expression changes with it in the same way. -/
theorem parse_rename (r : Renaming) (g : Grammar) (text : String) :
    g.parse (r.text text) = (match g.parse text with
      | .ok e => .ok (e.rename r)
      | .error rejection => .error (rejection.rename r)) ∧
    ∀ e : Expr, (e.rename r).text = r.text e.text := by
  refine ⟨?_, Expr.text_rename r⟩
  have hstart : Cursor.start (r.text text) = (Cursor.start text).carry r 0 := by
    simp [Cursor.start, Cursor.carry]
  have hwhole : Parser.wholeQuery g.maxDepth (Cursor.start (r.text text)) =
      (Parser.wholeQuery g.maxDepth (Cursor.start text)).carry r 0 (Expr.rename r) :=
    hstart ▸ Parser.carries_wholeQuery g.maxDepth (Cursor.start text)
  rcases houtcome : Parser.wholeQuery g.maxDepth (Cursor.start text) with
    ⟨⟨e, next⟩ | _ | column, trace⟩
  all_goals
    rw [houtcome] at hwhole
    have hreply := congrArg Outcome.reply hwhole
  · rw [parse_of_done (congrArg Outcome.reply houtcome)]
    exact parse_of_done hreply
  · rw [parse_of_mismatch (congrArg Outcome.reply houtcome), parse_of_mismatch hreply, hwhole,
      houtcome]
    simp [Rejection.ofTrace, Rejection.rename, Outcome.carry]
  · rw [parse_of_tooDeep (congrArg Outcome.reply houtcome)]
    refine (parse_of_tooDeep hreply).trans ?_
    rw [Nat.zero_add]
    rfl

/-- A character of three bytes in the place of one of two, in a value and behind it. The column that
the explanation is about stays where it was. -/
theorem parse_rename_wider :
    'é'.utf8Size = 2 ∧ '語'.utf8Size = 3 ∧
      (Grammar.mk 0).parse "k:\"é\"" = .ok (.tag (.keyword "é")) ∧
      (Grammar.mk 0).parse "k:\"語\"" = .ok (.tag (.keyword "語")) ∧
      (Grammar.mk 0).parse "k:\"é\" é" = .error (.unexpected 6
        [.keyword (.operator .and), .keyword (.operator .or), .keyword (.operator .xor),
          .character .space] (some 'é')) ∧
      (Grammar.mk 0).parse "k:\"語\" 語" = .error (.unexpected 6
        [.keyword (.operator .and), .keyword (.operator .or), .keyword (.operator .xor),
          .character .space] (some '語')) := by
  obtain ⟨r, hr⟩ : ∃ r, r = Renaming.single 'é' '語' (by decide) (by decide) := ⟨_, rfl⟩
  have htext : ∀ text new : String, text.toList.map r.map = new.toList → r.text text = new :=
    fun text new h => String.toList_inj.mp ((r.toList_text text).trans h)
  have hvalue : (Grammar.mk 0).parse (r.text "k:\"é\"") = .ok (.tag (.keyword (r.text "é"))) :=
    (parse_rename r ⟨0⟩ "k:\"é\"").1
  have hbehind := (parse_rename r ⟨0⟩ "k:\"é\" é").1
  rw [htext _ "k:\"語\"" (by rw [hr]; decide), htext "é" "語" (by rw [hr]; decide)] at hvalue
  rw [htext _ "k:\"語\" 語" (by rw [hr]; decide), hr] at hbehind
  exact ⟨rfl, rfl, rfl, hvalue, rfl, hbehind⟩

end Grammar

end TagQuery
