import TagQuery.Proofs.Explanation.Decisive
import TagQuery.Proofs.Language.Passage
import TagQuery.Proofs.Language.Recognition
import TagQuery.Proofs.Renaming.Reader
import TagQuery.Proofs.Textbook.Chain

/-!
# A link in front of a query

An operand, an operator and the spaces around it make a link of a chain. What comes after them is
read as a query of its own, one level further down.

* `IsOperand.before_link`: an operand is one in front of an operator too, if a space separates them
  or if it does not end in a letter or a digit.
* `Parser.query_link`, `Parser.wholeQuery_link`: after a link the reader does what it does with the
  rest alone. From there on it has missed a space on the way, and nothing else.
* `Parser.wholeQuery_mem_space`: this space makes no difference, since the reader of the rest looks
  for one as well.
* `Grammar.parse_link`: so the result is that of the rest, with the operand joined to it, or with
  the column moved by the length of the link.
-/

namespace TagQuery

variable {limit level before after : Nat} {first word text rest : List Char} {op : Operator}
  {left e : Expr}

/-! ## Operands in front of other texts

A spelling ends in a mark, and then anything may follow it, or in a letter or a digit. -/

theorem IsValue.any_or_getLast? {value : String} (h : IsValue text value rest) :
    ∃ read, text = read ++ rest ∧
      ((∀ rest, IsValue (read ++ rest) value rest) ∨ ∃ c ∈ read.getLast?, c.isAlphanum) := by
  cases h with
  | @bare word rest hne hletters =>
    refine ⟨word, rfl, .inr ⟨word.getLast hne, ?_, hletters _ (List.getLast_mem hne)⟩⟩
    exact List.getLast?_eq_some_getLast hne
  | @quoted body rest hne hmark =>
    refine ⟨'"' :: body ++ ['"'], by simp, .inl fun rest => ?_⟩
    have hquoted : IsValue ('"' :: body ++ '"' :: rest) (String.ofList body) rest :=
      .quoted hne hmark
    simpa using hquoted

theorem IsTag.any_or_getLast? {t : Tag} (h : IsTag text t rest) :
    ∃ read, text = read ++ rest ∧
      ((∀ rest, IsTag (read ++ rest) t rest) ∨ ∃ c ∈ read.getLast?, c.isAlphanum) := by
  have hopening : ∀ {a b : Char} {read : List Char}, (∃ c ∈ read.getLast?, c.isAlphanum) →
      ∃ c ∈ (a :: b :: read).getLast?, c.isAlphanum := by
    rintro a b read ⟨c, hc, hletter⟩
    rw [Option.mem_def] at hc
    exact ⟨c, by simp [List.getLast?_cons, hc], hletter⟩
  cases h with
  | semantic hvalue =>
    obtain ⟨read, rfl, hlast⟩ := hvalue.any_or_getLast?
    exact ⟨'s' :: ':' :: read, rfl, hlast.imp (fun hany rest => .semantic (hany rest)) hopening⟩
  | @synonyms _ value rest hvalue =>
    obtain ⟨read, rfl, hends⟩ := hvalue.endsIn
    refine ⟨'s' :: ':' :: (read ++ ['+', 's']), by simp, .inl fun rest => ?_⟩
    have hsynonyms := IsTag.synonyms (hends.of_endsWord (endsWord_cons rfl ('s' :: rest)))
    simpa using hsynonyms
  | keyword hvalue =>
    obtain ⟨read, rfl, hlast⟩ := hvalue.any_or_getLast?
    exact ⟨'k' :: ':' :: read, rfl, hlast.imp (fun hany rest => .keyword (hany rest)) hopening⟩
  | comment hvalue =>
    obtain ⟨read, rfl, hlast⟩ := hvalue.any_or_getLast?
    exact ⟨'c' :: ':' :: read, rfl, hlast.imp (fun hany rest => .comment (hany rest)) hopening⟩
  | @regex body rest hne hclass =>
    refine ⟨'r' :: ':' :: '/' :: body ++ ['/'], by simp, .inl fun rest => ?_⟩
    have hregex : IsTag ('r' :: ':' :: '/' :: body ++ '/' :: rest)
        (.regex (String.ofList body)) rest := .regex hne hclass
    simpa using hregex

theorem IsOperand.any_or_getLast? (h : IsOperand limit level text e rest) :
    ∃ read, text = read ++ rest ∧
      ((∀ rest, IsOperand limit level (read ++ rest) e rest) ∨
        ∃ c ∈ read.getLast?, c.isAlphanum) := by
  cases h with
  | tag within htag =>
    obtain ⟨read, rfl, hlast⟩ := htag.any_or_getLast?
    exact ⟨read, rfl, hlast.imp_left fun hany rest => .tag within (hany rest)⟩
  | group within hquery =>
    obtain ⟨read, rfl, hends⟩ := hquery.endsIn
    refine ⟨'(' :: (read ++ [')']), by simp, .inl fun rest => ?_⟩
    have hgroup := IsOperand.group within (hends.of_endsWord (endsWord_cons rfl rest))
    simpa using hgroup

/-- An operand that is a text of its own is one in front of an operator too, if no letter or digit
comes right before the operator. -/
theorem IsOperand.before_link (h : IsOperand limit level first e [])
    (hjoint : (∃ c ∈ first.getLast?, c.isAlphanum) → 0 < before) (text : List Char) :
    IsOperand limit level (first ++ (spaces before ++ text)) e (spaces before ++ text) := by
  obtain ⟨read, hread, hlast⟩ := h.any_or_getLast?
  rw [List.append_nil] at hread
  subst hread
  rcases hlast with hany | hlast
  · exact hany _
  · obtain ⟨count, rfl⟩ := Nat.exists_eq_succ_of_ne_zero (Nat.pos_iff_ne_zero.mp (hjoint hlast))
    obtain ⟨read, hread, hends⟩ := h.endsIn
    rw [List.append_nil] at hread
    exact hread ▸ hends.of_endsWord (endsWord_cons rfl _)

namespace Parser

/-! ## The reader on a link -/

/-- Behind an operand nothing was missed, unless a `+` comes next. -/
theorem le_of_mem_tagOrGroup {below start column : Nat} {t : Terminal} {next : Cursor}
    (h : (tagOrGroup (query below) (.ofColumn text start)).reply = .done e next)
    (hmem : (column, t) ∈ (tagOrGroup (query below) (.ofColumn text start)).trace.toList)
    (hplus : next.rest.head? ≠ some '+') : column ≤ next.column := by
  have hguarded := guarded_tagOrGroup (guarded_query below) (forward_query below)
  obtain ⟨hnext, -⟩ := hguarded.composed.ofColumn_of_done h
  refine Nat.le_of_not_lt fun hlt => ?_
  obtain ⟨-, c, hc, rfl⟩ := hguarded.barred h hmem (.inr hlt)
  rw [hnext] at hplus
  exact hplus (List.head?_drop.trans hc)

/-- From where the spaces after an operator end, it has missed another space, and nothing else. -/
theorem operator_like (hword : (Terminal.keyword (.operator op)).Matches word)
    (hrest : rest.head? ≠ some ' ') {cursor next : Cursor}
    (hpasses : cursor.Passes (spaces before ++ word ++ spaces after) next)
    (hnext : next.rest = rest) :
    (operator cursor).Like next.column
      ⟨.done op next, .missed next.column (.character .space)⟩ := by
  obtain ⟨start, text⟩ := cursor
  obtain ⟨column, rest'⟩ := next
  subst hnext
  obtain rfl : text = spaces before ++ word ++ spaces after ++ rest' := hpasses.rest_eq
  have hstrip : (Terminal.keyword (.operator op)).strip? ((Cursor.mk start
      (spaces before ++ word ++ spaces after ++ rest')).after .space).rest =
        some (spaces after ++ rest') := by
    obtain ⟨middle, hgap⟩ := reads_gap_keyword before hword (spaces after ++ rest') start
    rw [List.append_assoc, List.append_assoc, reply_skip_eq_done.mp hgap]
    exact Terminal.strip?_eq_some_iff.mpr ⟨word, hword, rfl, nofun⟩
  have hreads : Reads operator (spaces before ++ word ++ spaces after ++ rest') op rest' :=
    reads_operator hword hrest
  obtain ⟨found, hfound⟩ := hreads start
  -- The textbook's side of the lemma says nothing here, so any operand and query will do.
  obtain ⟨last, -, hlike, -⟩ := operator_of_some hstrip (.tag (.comment "")) tooDeep
  obtain ⟨-, rfl⟩ := Reply.done.inj (hlike.reply_eq.symm.trans hfound)
  have htotal := (consumes_operator.forward _ _ _ hfound).total
  have hcolumn := hpasses.reaches.total
  obtain rfl : found = column := by
    simp only at htotal hcolumn
    omega
  exact hlike

/-- A value may be changed before or after the end of the text is looked for. -/
theorem wholeQuery_map_like (limit : Nat) (f : Expr → Expr) :
    ((query (limit + 1) >>= fun e => Pure.pure (f e)) >>= fun e =>
        terminal .endOfInput >>= fun _ => Pure.pure e).Like
      (wholeQuery limit >>= fun e => Pure.pure (f e)) := by
  refine (bind_assoc_like _ _ _).trans (Like.trans ?_ (bind_assoc_like _ _ _).symm)
  refine (Like.refl _).bind fun e => (pure_bind_like _ _).trans ?_
  refine Like.trans ?_ (bind_assoc_like _ _ _).symm
  exact (Like.refl _).bind fun _ => (pure_bind_like _ _).symm

section Link

variable {column : Nat} (hfirst : IsOperand (limit + 1) 0 first left [])
  (hjoint : (∃ c ∈ first.getLast?, c.isAlphanum) → 0 < before)
  (hword : (Terminal.keyword (.operator op)).Matches word) (hrest : rest.head? ≠ some ' ')

include hfirst hjoint hword

/-- The first operand of a link is read up to the spaces and the operator, and nothing is missed
behind these. -/
theorem tagOrGroup_like (hcolumn : first.length < column) :
    (tagOrGroup (query (limit + 1))
      ⟨0, first ++ (spaces before ++ word ++ spaces after ++ rest)⟩).Like column
        ⟨.done left ⟨first.length, spaces before ++ word ++ spaces after ++ rest⟩, .empty⟩ := by
  have hoperand : IsOperand (limit + 1) 0
      (first ++ (spaces before ++ word ++ spaces after ++ rest)) left
      (spaces before ++ word ++ spaces after ++ rest) := by
    rw [List.append_assoc (spaces before ++ word), List.append_assoc (spaces before)]
    exact hfirst.before_link hjoint _
  have hinner : ∀ {text e rest}, IsQuery (limit + 1) 1 text e rest → Closes rest →
      Reads (query (limit + 1)) text e rest := reads_query (by omega)
  obtain ⟨middle, hleft⟩ := reads_tagOrGroup_keyword hword hoperand hinner 0
  have htotal := ((consumes_tagOrGroup (forward_query _)).forward _ _ _ hleft).total
  obtain rfl : middle = first.length := by
    simp only [List.length_append] at htotal
    omega
  refine ⟨hleft, Trace.alike_empty fun found t hmem => ?_⟩
  have hplus : (spaces before ++ word ++ spaces after ++ rest).head? ≠ some '+' := fun hplus =>
    absurd (by decide) (head_spaces_keyword hword before after rest '+' hplus)
  exact Nat.lt_of_le_of_lt (le_of_mem_tagOrGroup hleft hmem hplus) hcolumn

include hrest

/-- A query with a link in front is the operand of the link joined to the query. -/
theorem query_link
    (hcolumn : column = first.length + (spaces before ++ word ++ spaces after).length) :
    (query (limit + 2) ⟨0, first ++ (spaces before ++ word ++ spaces after ++ rest)⟩).Like column
      (((query (limit + 1) >>= fun right => Pure.pure (.binary op left right))
        ⟨column, rest⟩).after (.missed column (.character .space))) := by
  have hpasses : Cursor.Passes ⟨first.length, spaces before ++ word ++ spaces after ++ rest⟩
      (spaces before ++ word ++ spaces after) ⟨column, rest⟩ := ⟨rfl, hcolumn⟩
  have hlt : first.length < column := by
    obtain ⟨c, letters, rfl, -⟩ := Terminal.exists_cons_of_matches hword
    simp only [List.length_append, List.length_cons] at hcolumn
    omega
  rw [query_succ]
  refine (bind_done_like (optional_done_like (tagOrGroup_like hfirst hjoint hword hlt))).trans ?_
  refine Outcome.Like.after_empty ?_ (.refl _ _)
  exact bind_done_like (optional_done_like (operator_like hword hrest hpasses rfl))

/-- The same for whole queries. -/
theorem wholeQuery_link
    (hcolumn : column = first.length + (spaces before ++ word ++ spaces after).length) :
    (wholeQuery (limit + 1)
      ⟨0, first ++ (spaces before ++ word ++ spaces after ++ rest)⟩).Like column
        (((wholeQuery limit >>= fun right => Pure.pure (.binary op left right))
          ⟨column, rest⟩).after (.missed column (.character .space))) := by
  have hquery := query_link hfirst hjoint hword hrest hcolumn
  refine (bind_like_after hquery _).trans (Outcome.Like.after ?_ (.refl _ _))
  exact (wholeQuery_map_like limit _ _).mono (Nat.zero_le _)

end Link

/-! ## Spaces that were looked for -/

/-- A query that does not run out of levels looks for spaces, in front of an operator or of the word
`NOT`. -/
theorem exists_mem_space {cursor : Cursor}
    (h : ∀ column, (query (limit + 1) cursor).reply ≠ .tooDeep column) :
    ∃ column, (column, .character .space) ∈ (query (limit + 1) cursor).trace.toList := by
  have hgap : ∀ {α : Type} (p : Unit → Parser α) (cursor : Cursor),
      ((cursor.after .space).column, Terminal.character .space) ∈
        ((gap >>= p) cursor).trace.toList := fun _ _ =>
    mem_trace_bind.mpr (.inl (mem_trace_skip.mpr rfl))
  rw [query_succ] at h ⊢
  rcases hfirst : tagOrGroup (query limit) cursor with ⟨⟨left, next⟩ | _ | deep, t⟩
  · have hoperator : (_, Terminal.character .space) ∈ (operator next).trace.toList := hgap _ next
    have hchain : (_, Terminal.character .space) ∈ (chain left (query limit) next).trace.toList :=
      mem_trace_bind.mpr (.inl (mem_trace_optional.mpr hoperator))
    rw [bind_of_done (optional_of_done hfirst)]
    exact ⟨_, List.mem_append_right _ hchain⟩
  · rw [bind_of_done (optional_of_mismatch hfirst)]
    exact ⟨_, List.mem_append_right _ (hgap _ cursor)⟩
  · rw [bind_of_tooDeep (optional_of_tooDeep hfirst)] at h
    exact absurd rfl (h deep)

theorem wholeQuery_mem_space {cursor : Cursor} (h : (wholeQuery limit cursor).reply = .mismatch) :
    ∃ column, (column, .character .space) ∈ (wholeQuery limit cursor).trace.toList := by
  obtain ⟨column, hspace⟩ : ∃ column,
      (column, .character .space) ∈ (query (limit + 1) cursor).trace.toList := by
    refine exists_mem_space fun deep hdeep => ?_
    have hwhole : (wholeQuery limit cursor).reply = .tooDeep deep :=
      reply_bind_eq_tooDeep.mpr (.inl hdeep)
    rw [h] at hwhole
    cases hwhole
  exact ⟨column, mem_trace_wholeQuery.mpr (.inl hspace)⟩

end Parser

/-! ## The result -/

/-- A space missed at the column where a text begins adds nothing to what explains a mismatch in the
text, if the reader of the text missed a space too. -/
theorem Rejection.ofTrace_link {t u : Trace} {column : Nat} (front text : List Char)
    (hspace : (column, .character .space) ∈ t.toList)
    (halike : u.Alike front.length
      (.missed front.length (.character .space) ++ t.shift front.length)) :
    ofTrace (front ++ text) u = ofTrace (front ++ text) (t.shift front.length) := by
  have hfurthest : (t.shift front.length).furthest = front.length + t.furthest :=
    Trace.furthest_shift hspace
  by_cases hzero : t.furthest = 0
  · have hcolumn : column = 0 := Nat.le_zero.mp (hzero ▸ Trace.le_furthest hspace)
    have hmem : (front.length, .character .space) ∈ (t.shift front.length).toList := by
      rw [hcolumn] at hspace
      exact Trace.mem_shift.mpr hspace
    have hsame : (Trace.missed front.length (.character .space) ++ t.shift front.length).Alike
        front.length (t.shift front.length) := by
      intro found terminal _
      simp
      grind
    refine (ofTrace_congr (halike.trans hsame).symm ?_ _).symm
    omega
  · have hbefore := Trace.missed_alike_empty (.character .space) (Nat.lt_succ_self front.length)
    have hsame := (halike.mono (Nat.le_succ _)).trans (hbefore.empty_append (.refl _ _))
    refine (ofTrace_congr hsame.symm ?_ _).symm
    omega

namespace Grammar

/-- **Chains are compositional.** Behind an operand, an operator and the spaces around it the rest
of a text is read as if it stood alone, one level further down. An expression is joined to the
operand. An explanation stays the same, with its column further on by the length of what stands in
front, and so does the column of the notice that the rest nests too deep. -/
theorem parse_link (before after : Nat) (hfirst : IsOperand (limit + 1) 0 first left [])
    (hjoint : (∃ c ∈ first.getLast?, c.isAlphanum) → 0 < before)
    (hword : (Terminal.keyword (.operator op)).Matches word) (hrest : rest.head? ≠ some ' ') :
    (Grammar.mk (limit + 1)).parse
        (String.ofList (first ++ (spaces before ++ word ++ spaces after) ++ rest)) =
      match (Grammar.mk limit).parse (String.ofList rest) with
      | .ok right => .ok (.binary op left right)
      | .error (.unexpected column expected found) =>
        .error (.unexpected ((first ++ (spaces before ++ word ++ spaces after)).length + column)
          expected found)
      | .error (.tooDeep column _) =>
        .error (.tooDeep ((first ++ (spaces before ++ word ++ spaces after)).length + column)
          (limit + 1)) := by
  generalize hfront : first ++ (spaces before ++ word ++ spaces after) = front
  have hcolumn : front.length = first.length + (spaces before ++ word ++ spaces after).length := by
    rw [← hfront, List.length_append]
  have hlink := Parser.wholeQuery_link hfirst hjoint hword hrest hcolumn
  rw [← List.append_assoc first, hfront] at hlink
  have hfurther := Parser.wholeQuery_further limit front.length rest
  have hstart : ∀ text, Cursor.start (String.ofList text) = ⟨0, text⟩ := fun text => by
    simp [Cursor.start]
  rcases halone : Parser.wholeQuery limit ⟨0, rest⟩ with ⟨⟨right, next⟩ | _ | deep, t⟩
  all_goals
    rw [halone] at hfurther
    rw [← hstart] at halone hlink
  · rw [Parser.bind_of_done hfurther, Expr.rename_refl] at hlink
    rw [parse_of_done (congrArg Outcome.reply halone)]
    exact parse_of_done hlink.reply_eq
  · rw [Parser.bind_of_mismatch hfurther] at hlink
    obtain ⟨column, hspace⟩ := Parser.wholeQuery_mem_space (congrArg Outcome.reply halone)
    rw [halone] at hspace
    obtain ⟨found, expected, htext, hbehind⟩ := Rejection.ofTrace_shift hspace front rest
    have hsame := Rejection.ofTrace_link front rest hspace hlink.alike
    rw [parse_of_mismatch (congrArg Outcome.reply halone), parse_of_mismatch hlink.reply_eq, halone,
      String.toList_ofList, String.toList_ofList, hsame, htext, hbehind]
  · rw [Parser.bind_of_tooDeep hfurther] at hlink
    rw [parse_of_tooDeep (congrArg Outcome.reply halone)]
    exact parse_of_tooDeep hlink.reply_eq

/-- The rest alone is rejected at column 4, after `k:b `. The link in front of it is ten characters
long. -/
theorem parse_link_group :
    (Grammar.mk 0).parse "k:b x" =
        .error (.unexpected 4 [.keyword (.operator .and), .keyword (.operator .or),
          .keyword (.operator .xor), .character .space] (some 'x')) ∧
      (Grammar.mk 1).parse "(s:a)aNd  k:b x" =
        .error (.unexpected 14 [.keyword (.operator .and), .keyword (.operator .or),
          .keyword (.operator .xor), .character .space] (some 'x')) := by
  have hvalue : IsValue ['a', ')'] "a" [')'] := .bare (List.cons_ne_nil 'a' []) (by simp) (by simp)
  have hfirst : IsOperand 1 0 ['(', 's', ':', 'a', ')'] (.tag (.semantic "a" false)) [] :=
    .group (by decide) (.operand (.tag (by decide) (.semantic hvalue)))
  have hword : (Terminal.keyword (.operator .and)).Matches ['a', 'N', 'd'] := rfl
  have hrest : ['k', ':', 'b', ' ', 'x'].head? ≠ some ' ' := by decide
  have halone : (Grammar.mk 0).parse "k:b x" = .error (.unexpected 4
      [.keyword (.operator .and), .keyword (.operator .or), .keyword (.operator .xor),
        .character .space] (some 'x')) := rfl
  have hlink := parse_link 0 2 hfirst (by simp) hword hrest
  rw [show String.ofList ['k', ':', 'b', ' ', 'x'] = "k:b x" from rfl, halone] at hlink
  exact ⟨halone, hlink⟩

end Grammar

end TagQuery
