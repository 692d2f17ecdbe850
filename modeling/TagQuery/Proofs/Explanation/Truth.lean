import TagQuery.Language.Acceptance
import TagQuery.Proofs.Explanation.Expected
import TagQuery.Proofs.Language.Beginning
import TagQuery.Proofs.Language.Passage
import TagQuery.Proofs.Language.Recognition
import TagQuery.Proofs.Parser.Expects

/-!
# An explanation says nothing wrong

Whatever a reader misses could have stood where it was missed. This holds of every entry of a trace
and not only of those at the furthest column.

* `Parser.expects_tag`, `Parser.expects_query` and so on: what a rule misses may stand in the
  beginning of a spelling of the same name, if there is one level to spare.
* `Grammar.explanation_truthful`: what an explanation lists may come next.
-/

namespace TagQuery

variable {limit level : Nat}

namespace Parser

variable {cursor : Cursor}

theorem expects_gap {B : List Char → Prop} (h : ∀ count, B (spaces count)) :
    gap.Expects cursor B := by
  refine expects_skip fun body _ hbody => ?_
  obtain ⟨count, rfl⟩ := exists_eq_spaces hbody
  exact h count

/-! ## Tags -/

theorem expects_value : value.Expects cursor (Begins IsValue) := by
  refine .orElse (expects_run fun word hne hletters => ?_) ?_
  · refine ⟨[], String.ofList word, fun rest hrest => ?_⟩
    rw [List.append_nil]
    exact .bare hne hletters hrest
  have hquoted : ∀ {body}, body ≠ [] → (∀ c ∈ body, CharClass.unquoted.contains c) →
      Begins IsValue ('"' :: body ++ ['"']) := by
    intro body hne hbody
    refine ⟨[], String.ofList body, fun rest _ => ?_⟩
    have hmark : '"' ∉ body := fun hmem => absurd (hbody _ hmem) (by decide)
    simpa using @IsValue.quoted body rest hne hmark
  refine .bind (expects_terminal fun word hword => ?_) fun _ opened hopen => ?_
  · obtain rfl : word = ['"'] := hword
    have hletter : Begins IsValue (['"'] ++ ['a', '"']) :=
      hquoted (List.cons_ne_nil 'a' []) fun c hc => by rw [List.mem_singleton.mp hc]; rfl
    exact hletter.of_append
  refine ⟨_, symbol_passes hopen, ?_⟩
  refine .bind (expects_run fun body hne hbody => (hquoted hne hbody).of_append) fun _ read hread => ?_
  obtain ⟨body, hne, hbody, -, hpasses, -⟩ := run_passes hread
  refine ⟨body, hpasses, .bind_pure (expects_terminal fun word hword => ?_)⟩
  obtain rfl : word = ['"'] := hword
  exact hquoted hne hbody

theorem expects_tagOfKind (kind : TagKind) : (tagOfKind kind).Expects cursor (Begins IsTag) := by
  refine .bind (expects_terminal fun word hword => ?_) fun _ opened hopen => ?_
  · obtain rfl : word = (Symbol.opening kind).text.toList := hword
    exact begins_opening kind
  refine ⟨_, symbol_passes hopen, ?_⟩
  cases kind with
  | semantic =>
    refine .bind (expects_value.mono (·.map ['s', ':'] (Tag.semantic · false) .semantic)) ?_
    intro text next hvalue
    obtain ⟨read, hpasses, hends⟩ := value_passes hvalue
    refine ⟨read, hpasses, .bind_pure (expects_terminal fun word hword => ?_).optional⟩
    obtain rfl : word = ['+', 's'] := hword
    refine ⟨[], .semantic text true, fun rest _ => ?_⟩
    have hsynonyms := IsTag.synonyms (hends.of_endsWord (endsWord_cons rfl ('s' :: rest)))
    simpa [Symbol.text, TagKind.marker] using hsynonyms
  | keyword => exact .bind_pure (expects_value.mono (·.map ['k', ':'] Tag.keyword .keyword))
  | comment => exact .bind_pure (expects_value.mono (·.map ['c', ':'] Tag.comment .comment))
  | regex =>
    have hregex : ∀ {body}, body ≠ [] → (∀ c ∈ body, CharClass.pattern.contains c) →
        Begins IsTag (['r', ':', '/'] ++ body ++ ['/']) := by
      intro body hne hbody
      refine ⟨[], .regex (String.ofList body), fun rest _ => ?_⟩
      simpa using @IsTag.regex body rest hne hbody
    refine .bind (expects_run fun body hne hbody => (hregex hne hbody).of_append) ?_
    intro text next hread
    obtain ⟨body, hne, hbody, -, hpasses, -⟩ := run_passes hread
    refine ⟨body, hpasses, .bind_pure (expects_terminal fun word hword => ?_)⟩
    obtain rfl : word = ['/'] := hword
    exact hregex hne hbody

theorem expects_tag : tag.Expects cursor (Begins IsTag) :=
  (expects_tagOfKind _).orElse <| (expects_tagOfKind _).orElse <|
    (expects_tagOfKind _).orElse (expects_tagOfKind _)

/-! ## Operands and queries -/

variable {first : List Char} {left : Expr} {below : Nat}

/-- After an operand an operator is looked for, whether or not there is one. -/
theorem expects_operator (within : level < limit)
    (hends : EndsIn (IsOperand limit level) first left cursor.rest) :
    operator.Expects cursor fun read => Begins (IsQuery limit level) (first ++ read) := by
  refine .bind (expects_gap (Begins.spaces_after within hends)) fun _ second hgap => ?_
  obtain ⟨before, hbefore⟩ := gap_passes hgap
  refine ⟨_, hbefore, ?_⟩
  have hoperator : ∀ op, (operatorWord op).Expects second fun read =>
      Begins (IsQuery limit level) (first ++ (spaces before ++ read)) := fun op =>
    .bind_pure (expects_terminal fun word hword => Begins.operator within hends hword before)
  refine .bind ((hoperator _).orElse ((hoperator _).orElse (hoperator _))) fun op third hop => ?_
  obtain ⟨word, hmatches, hword⟩ := anyOperatorWord_passes hop
  refine ⟨word, hword, .bind_pure (expects_gap fun after => ?_)⟩
  rw [← List.append_assoc (spaces before)]
  have hrest := (hbefore.trans hword).rest_eq
  exact Begins.link within hmatches (hends.before_keyword hmatches hrest after)

theorem expects_tagOrGroup (hlevels : level + (below + 1) = limit + 1)
    (hquery : ∀ cursor, (query below).Expects cursor (Begins (IsQuery (limit + 1) (level + 1)))) :
    (tagOrGroup (query below)).Expects cursor (Begins (IsOperand (limit + 1) level)) := by
  have within : level ≤ limit + 1 := by omega
  refine .orElse (.bind_pure (expects_tag.mono (Begins.tag within))) ?_
  refine .bind (expects_terminal fun word hword => ?_) fun _ second hopen => ?_
  · obtain rfl : word = ['('] := hword
    exact (Begins.query_nil (by omega)).group within
  refine ⟨_, symbol_passes hopen, ?_⟩
  refine .bind ((hquery second).mono (Begins.group within)) fun e third he => ?_
  have hinner : level + 1 + below = limit + 1 := by omega
  obtain ⟨read, hread, hends⟩ := query_passes hinner he
  refine ⟨read, hread, .bind_pure (expects_terminal fun word hword => ?_)⟩
  obtain rfl : word = [')'] := hword
  refine ⟨[], e, fun rest _ => ?_⟩
  have hclosed : IsQuery limit (level + 1) (read ++ ')' :: rest) e (')' :: rest) :=
    hends.of_endsWord (endsWord_cons rfl rest)
  have hgroup := IsOperand.group within (hclosed.mono (Nat.le_succ limit))
  simpa [Symbol.text] using hgroup

/-- The word `NOT` and the operand after it lie within the limit. -/
theorem expects_negation {p : Parser Expr} (within : level < limit)
    (hp : ∀ cursor, p.Expects cursor (Begins (IsOperand limit (level + 1)))) :
    (negation p).Expects cursor (Begins (IsQuery limit level)) := by
  have hnot : ∀ {word}, (Terminal.keyword .not).Matches word → ∀ before after,
      Begins (IsQuery limit level) (spaces before ++ word ++ spaces after) := by
    intro word hword before after
    have hbegins := (Begins.operand_nil within).negation hword before after
    rwa [List.append_nil] at hbegins
  refine .bind (expects_gap fun before => ?_) fun _ second hgap => ?_
  · have hword : (Terminal.keyword .not).Matches "NOT".toList := rfl
    exact (hnot hword before 0).of_append.of_append
  obtain ⟨before, hbefore⟩ := gap_passes hgap
  refine ⟨_, hbefore, .bind (expects_terminal fun word hword => ?_) fun _ third hnext => ?_⟩
  · exact (hnot hword before 0).of_append
  obtain ⟨word, hmatches, hword⟩ := keyword_passes hnext
  refine ⟨word, hword, .bind (expects_gap fun after => ?_) fun _ fourth hgap => ?_⟩
  · rw [← List.append_assoc]
    exact hnot hmatches before after
  obtain ⟨after, hafter⟩ := gap_passes hgap
  refine ⟨_, hafter, .bind_pure ((hp fourth).mono fun hread => ?_)⟩
  have hbegins := hread.negation hmatches before after
  rwa [List.append_assoc, List.append_assoc] at hbegins

/-- After the first operand a chain may go on, or end. -/
theorem expects_chain {right : Parser Expr} (within : level < limit)
    (hends : EndsIn (IsOperand limit level) first left cursor.rest)
    (hright : ∀ cursor, right.Expects cursor (Begins (IsQuery limit (level + 1)))) :
    (chain left right).Expects cursor fun read => Begins (IsQuery limit level) (first ++ read) := by
  refine .bind (expects_operator within hends).optional fun found next h => ?_
  rcases reply_optional_eq_done.mp h with ⟨op, hop, rfl⟩ | ⟨-, rfl, rfl⟩
  · obtain ⟨before, word, after, hword, hop⟩ := operator_passes hop
    refine ⟨_, hop, .bind_pure ((hright next).mono fun hread => ?_)⟩
    have hrest := hop.rest_eq.trans (List.append_assoc _ _ _)
    have hbegins := Begins.binary hword (hends.before_keyword hword hrest after) hread
    rwa [List.append_assoc first] at hbegins
  · exact ⟨[], .refl _, expects_pure left⟩

/-- One level more, and a query may go on with whatever was missed. -/
theorem expects_query {levels : Nat} (hlevels : level + levels = limit + 1) :
    (query levels).Expects cursor (Begins (IsQuery (limit + 1) level)) := by
  refine (query_induction
    (P := fun levels p => ∀ {level cursor}, level + levels = limit + 1 →
      p.Expects cursor (Begins (IsQuery (limit + 1) level)))
    (Q := fun levels p => ∀ {level cursor}, level + levels = limit + 1 →
      p.Expects cursor (Begins (IsOperand (limit + 1) level)))
    ?_ ?_ ?_ ?_ levels).1 hlevels
  · exact fun _ => expects_tooDeep
  · intro below hquery hoperand level cursor hlevels
    have within : level < limit + 1 := by omega
    have hbelow : ∀ cursor, (query below).Expects cursor (Begins (IsQuery (limit + 1) (level + 1))) :=
      fun _ => hquery (by omega)
    refine .bind (.optional ((expects_tagOrGroup hlevels hbelow).mono Begins.operand)) ?_
    intro found next hfirst
    rcases reply_optional_eq_done.mp hfirst with ⟨left, hleft, rfl⟩ | ⟨-, rfl, rfl⟩
    · obtain ⟨first, hpasses, hends⟩ := operand_passes hlevels hleft
      have hends : EndsIn (IsOperand (limit + 1) level) first left next.rest :=
        hends.map [] id (IsOperand.mono (Nat.le_succ _))
      exact ⟨first, hpasses, expects_chain within hends hbelow⟩
    · exact ⟨[], .refl next, expects_negation within fun _ => hoperand (by omega)⟩
  · exact fun _ => expects_tooDeep
  · intro below hquery level cursor hlevels
    exact expects_tagOrGroup hlevels fun _ => hquery (by omega)

end Parser

/-! ## Explanations -/

theorem isAccepted_of_isQuery {text : List Char} {e : Expr} (h : IsQuery limit 0 text e []) :
    IsAccepted text := by
  refine ⟨⟨limit⟩, e, Grammar.parse_of_isQuery ?_⟩
  rwa [String.toList_ofList]

theorem isViable_of_begins {read : List Char} (h : Begins (IsQuery limit 0) read) :
    IsViable read := by
  obtain ⟨tail, e, he⟩ := h
  have hquery := he [] endsWord_nil
  rw [List.append_nil] at hquery
  exact ⟨tail, isAccepted_of_isQuery hquery⟩

theorem IsViable.of_append {text more : List Char} (h : IsViable (text ++ more)) :
    IsViable text := by
  obtain ⟨tail, h⟩ := h
  rw [List.append_assoc] at h
  exact ⟨more ++ tail, h⟩

theorem IsAccepted.isViable {text : List Char} (h : IsAccepted text) : IsViable text := by
  refine ⟨[], ?_⟩
  rwa [List.append_nil]

namespace Grammar

variable {g : Grammar} {text : String} {column : Nat} {expected : List Terminal}
  {found : Option Char} {t : Terminal}

/-- What is expected inside a query may come next. -/
theorem isViable_of_mem_expected (h : g.parse text = .error (.unexpected column expected found))
    (ht : t ∈ expected) (hinside : t ≠ .endOfInput) :
    t.CanFollow IsViable (text.toList.take column) := by
  have hmem := ((mem_expected h).2 t).mp ht
  rcases Parser.mem_trace_wholeQuery.mp hmem with hmem | ⟨_, _, -, -, hentry⟩
  · obtain ⟨-, hfollow⟩ := (Parser.expects_query (Nat.zero_add _) column t hmem).of_start
    exact fun word hword => isViable_of_begins (hfollow word hword)
  · cases hentry
    exact absurd rfl hinside

/-- Where the end of the text is expected, it may end. -/
theorem isAccepted_of_mem_expected (h : g.parse text = .error (.unexpected column expected found))
    (hend : .endOfInput ∈ expected) : IsAccepted (text.toList.take column) := by
  have hmem := ((mem_expected h).2 _).mp hend
  rcases Parser.mem_trace_wholeQuery.mp hmem with hmem | ⟨e, next, hquery, -, hentry⟩
  · exact absurd rfl ((Parser.composed_query _).ne_endOfInput hmem)
  · obtain ⟨read, hpasses, hends⟩ := Parser.query_passes (Nat.zero_add _) hquery
    cases hentry
    have hupTo : (Cursor.start text).UpTo next.column IsAccepted := by
      refine ⟨read, next, hpasses, rfl, ?_⟩
      have hwhole := hends.of_endsWord endsWord_nil
      rw [List.append_nil] at hwhole
      exact isAccepted_of_isQuery hwhole
    exact hupTo.of_start.2

/-- **An explanation is truthful.** It lists something, and the text before its column can be
completed. Where the end of the text is listed, this text is accepted as it is; any other terminal
that is listed may come next, in every spelling. -/
theorem explanation_truthful (h : g.parse text = .error (.unexpected column expected found)) :
    expected ≠ [] ∧ column ≤ text.length ∧ IsViable (text.toList.take column) ∧
      ∀ t ∈ expected,
        (t = .endOfInput → IsAccepted (text.toList.take column)) ∧
        (t ≠ .endOfInput → ∀ word, t.Matches word → IsViable (text.toList.take column ++ word)) := by
  obtain ⟨t, ht⟩ := exists_mem_expected h
  have hviable : IsViable (text.toList.take column) := by
    by_cases hend : t = .endOfInput
    · rw [hend] at ht
      exact (isAccepted_of_mem_expected h ht).isViable
    · obtain ⟨word, hword⟩ := t.exists_matches
      exact (isViable_of_mem_expected h ht hend word hword).of_append
  refine ⟨List.ne_nil_of_mem ht, column_le_length h, hviable, fun t ht => ⟨fun hend => ?_, ?_⟩⟩
  · rw [hend] at ht
    exact isAccepted_of_mem_expected h ht
  · exact isViable_of_mem_expected h ht

/-- In a group that is still open a value is missing. -/
theorem explanation_truthful_open :
    (Grammar.mk 8).parse "s:a AND (k:" =
        .error (.unexpected 11 [.symbol .quotationMark, .character .word] none) ∧
      ∀ word, (Terminal.symbol .quotationMark).Matches word →
        IsViable ("s:a AND (k:".toList.take 11 ++ word) := by
  have h : (Grammar.mk 8).parse "s:a AND (k:" =
      .error (.unexpected 11 [.symbol .quotationMark, .character .word] none) := rfl
  obtain ⟨-, -, -, hall⟩ := explanation_truthful h
  exact ⟨h, (hall _ List.mem_cons_self).2 nofun⟩

end Grammar

end TagQuery
