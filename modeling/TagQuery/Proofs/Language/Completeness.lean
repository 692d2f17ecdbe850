import TagQuery.Expr.Parser
import TagQuery.Proofs.Language.Spelling
import TagQuery.Proofs.Parser.Reply

/-!
# What is in the language is taken

The converse of `TagQuery.Proofs.Language.Soundness`. The relations have no order and the reader is
greedy, so each rule needs something of what follows: a tag must not be followed by a `+`, which the
reader would take for the beginning of `+s`, and a query must end where the text ends or at a
closing parenthesis (`Closes`), because the reader would take an operator for another link of the
chain.

* `reads_tag`: a tag that no `+` follows is read.
* `reads_query`: a query that closes is read within any number of levels that reaches to the limit.
-/

namespace TagQuery.Parser

variable {text rest : List Char}

/-! ## Terminals and gaps -/

theorem reads_symbol (s : Symbol) (rest : List Char) :
    Reads (symbol s) (s.text.toList ++ rest) () rest :=
  reads_terminal (Terminal.strip?_eq_some_iff.mpr ⟨_, rfl, rfl, nofun⟩)

theorem misses_symbol {s : Symbol} (h : text.head? ≠ s.text.toList.head?) :
    Misses (symbol s) text :=
  misses_terminal (Terminal.strip?_symbol_of_head h)

theorem reads_keyword {k : Keyword} {word : List Char} (h : (Terminal.keyword k).Matches word)
    (rest : List Char) : Reads (keyword k) (word ++ rest) () rest :=
  reads_terminal (Terminal.strip?_eq_some_iff.mpr ⟨_, h, rfl, nofun⟩)

theorem misses_keyword {k : Keyword} (h : text.head?.map Char.toUpper ≠ k.text.toList.head?) :
    Misses (keyword k) text :=
  misses_terminal (Terminal.strip?_keyword_of_head h)

theorem reads_gap (count : Nat) (h : rest.head? ≠ some ' ') :
    Reads gap (spaces count ++ rest) () rest := by
  refine reads_skip (fun c hc => ?_) fun c hc hspace => ?_
  · rw [List.eq_of_mem_replicate hc]
    rfl
  · rw [beq_iff_eq.mp hspace] at hc
    exact h hc

theorem reads_gap_keyword (count : Nat) {k : Keyword} {word : List Char}
    (h : (Terminal.keyword k).Matches word) (rest : List Char) :
    Reads gap (spaces count ++ (word ++ rest)) () (word ++ rest) := by
  obtain ⟨c, letters, rfl, hupper⟩ := Terminal.exists_cons_of_matches h
  refine reads_gap count fun hspace => ?_
  cases hspace
  exact not_mem_of_toUpper hupper List.mem_cons_self

/-! ## Values and tags -/

theorem reads_value {v : String} (h : IsValue text v rest) : Reads value text v rest := by
  cases h with
  | @bare word rest hne hletters hends =>
    have hword : Reads (run .word) (word ++ rest) (String.ofList word) rest :=
      reads_run hne hletters hends
    exact hword.orElse
  | @quoted body _ hne hunquoted =>
    refine (misses_run fun c hc => ?_).orElse_reads ?_
    · cases hc
      decide
    · refine (reads_symbol .quotationMark _).bind ?_
      refine Reads.bind (reads_run hne (fun c hc => ?_) fun c hc => ?_) ?_
      · exact bne_iff_ne.mpr fun he => hunquoted (he ▸ hc)
      · cases hc
        decide
      · exact (reads_symbol .quotationMark _).bind (Reads.pure _ _)

theorem misses_tagOfKind {kind : TagKind}
    (h : text.head? ≠ (Symbol.opening kind).text.toList.head?) : Misses (tagOfKind kind) text :=
  (misses_symbol h).bind

/-- A tag of another kind begins with another letter. -/
private theorem misses_tagOfKind_cons {kind : TagKind} {c : Char}
    (h : some c ≠ (Symbol.opening kind).text.toList.head?) (tail : List Char) :
    Misses (tagOfKind kind) (c :: tail) :=
  misses_tagOfKind h

/-- A tag is read unless a `+` follows. -/
theorem reads_tag {t : Tag} (h : IsTag text t rest) (hrest : rest.head? ≠ some '+') :
    Reads tag text t rest := by
  have hsemantic : ∀ {value : String} {text rest : List Char} {synonyms : Option Unit},
      IsValue text value rest →
      ∀ {last}, Reads (optional (symbol .synonyms)) rest synonyms last →
        Reads tag ('s' :: ':' :: text) (.semantic value synonyms.isSome) last := by
    intro value text rest synonyms hvalue last hsynonyms
    refine Reads.orElse ((reads_symbol (.opening .semantic) _).bind ?_)
    exact (reads_value hvalue).bind (hsynonyms.bind (Reads.pure _ _))
  cases h with
  | semantic hvalue => exact hsemantic hvalue (misses_symbol hrest).optional
  | synonyms hvalue => exact hsemantic hvalue (reads_symbol .synonyms _).optional
  | keyword hvalue =>
    refine Misses.orElse_reads (misses_tagOfKind_cons (by decide) _) ?_
    refine Reads.orElse ((reads_symbol (.opening .keyword) _).bind ?_)
    exact (reads_value hvalue).bind (Reads.pure _ _)
  | comment hvalue =>
    refine Misses.orElse_reads (misses_tagOfKind_cons (by decide) _) ?_
    refine Misses.orElse_reads (misses_tagOfKind_cons (by decide) _) ?_
    refine Reads.orElse ((reads_symbol (.opening .comment) _).bind ?_)
    exact (reads_value hvalue).bind (Reads.pure _ _)
  | regex hne hclass =>
    refine Misses.orElse_reads (misses_tagOfKind_cons (by decide) _) ?_
    refine Misses.orElse_reads (misses_tagOfKind_cons (by decide) _) ?_
    refine Misses.orElse_reads (misses_tagOfKind_cons (by decide) _) ?_
    refine (reads_symbol (.opening .regex) _).bind ?_
    refine Reads.bind (reads_run hne hclass fun c hc => ?_) ?_
    · cases hc
      decide
    · exact (reads_symbol .patternEnd _).bind (Reads.pure _ _)

theorem misses_tag (h : ∀ c ∈ text.head?, c ∉ tagOpenings) : Misses tag text := by
  have hkind : ∀ kind, Misses (tagOfKind kind) text := by
    refine fun kind => misses_tagOfKind fun hhead => ?_
    obtain ⟨c, hc, hopens⟩ : ∃ c, (Symbol.opening kind).text.toList.head? = some c ∧
        c ∈ tagOpenings := by
      cases kind <;> exact ⟨_, rfl, by decide⟩
    exact h c (hhead.trans hc) hopens
  exact (hkind _).orElse ((hkind _).orElse ((hkind _).orElse (hkind _)))

theorem misses_tagOrGroup {inner : Parser Expr} (h : ∀ c ∈ text.head?, c ∉ operandOpenings) :
    Misses (tagOrGroup inner) text := by
  have htag : Misses tag text := misses_tag fun c hc hopens =>
    h c hc (List.mem_cons_of_mem _ hopens)
  refine htag.bind.orElse (misses_symbol fun hhead => ?_).bind
  exact h '(' hhead List.mem_cons_self

/-- No operand stands where a keyword does. -/
theorem misses_tagOrGroup_keyword (inner : Parser Expr) {k : Keyword} {word : List Char}
    (hword : (Terminal.keyword k).Matches word) (before after : Nat) (text : List Char) :
    Misses (tagOrGroup inner) (spaces before ++ word ++ spaces after ++ text) := by
  have hjoint := head_spaces_keyword hword before after text
  exact misses_tagOrGroup fun c hc hopens => hjoint c hc (List.mem_append_left _ hopens)

/-! ## Operators -/

/-- Where the reader ends a query: at the end of the text or before a closing parenthesis. -/
def Closes (rest : List Char) : Prop :=
  ∀ c ∈ rest.head?, c = ')'

theorem Closes.head_ne {c : Char} (h : Closes rest) (hc : c ≠ ')') : rest.head? ≠ some c :=
  fun hhead => hc (h c hhead)

theorem reads_operator {op : Operator} {word : List Char} {before after : Nat}
    (hword : (Terminal.keyword (.operator op)).Matches word) (hrest : rest.head? ≠ some ' ') :
    Reads operator (spaces before ++ word ++ spaces after ++ rest) op rest := by
  have hbefore := reads_gap_keyword before hword (spaces after ++ rest)
  have hafter : Reads gap (spaces after ++ rest) () rest := reads_gap after hrest
  have hreads :
      Reads (operatorWord op) (word ++ (spaces after ++ rest)) op (spaces after ++ rest) :=
    (reads_keyword hword _).bind (Reads.pure _ _)
  have hstrip : (Terminal.keyword (.operator op)).strip? (word ++ (spaces after ++ rest)) =
      some (spaces after ++ rest) := Terminal.strip?_eq_some_iff.mpr ⟨word, hword, rfl, nofun⟩
  have hmisses : ∀ other, other ≠ op →
      Misses (operatorWord other) (word ++ (spaces after ++ rest)) := fun other hne =>
    (misses_terminal (Terminal.strip?_operator_of_ne hstrip hne)).bind
  rw [List.append_assoc, List.append_assoc]
  refine hbefore.bind (Reads.bind ?_ (hafter.bind (Reads.pure _ _)))
  cases op with
  | and => exact hreads.orElse
  | or => exact (hmisses .and (by decide)).orElse_reads hreads.orElse
  | xor =>
    exact (hmisses .and (by decide)).orElse_reads ((hmisses .or (by decide)).orElse_reads hreads)

theorem misses_operator (h : Closes rest) : Misses operator rest := by
  have hgap : Reads gap rest () rest := reads_gap 0 (h.head_ne (by decide))
  have hword : ∀ op, Misses (operatorWord op) rest := by
    refine fun op => (misses_keyword fun hhead => ?_).bind
    cases hrest : rest.head? with
    | none =>
      rw [hrest] at hhead
      cases op <;> cases hhead
    | some c =>
      rw [hrest, h c hrest] at hhead
      cases op <;> exact absurd hhead (by decide)
  exact hgap.bind_misses ((hword _).orElse ((hword _).orElse (hword _))).bind

/-! ## Operands and queries -/

variable {limit level : Nat} {e : Expr}

theorem reads_tagOrGroup {inner : Parser Expr} (h : IsOperand limit level text e rest)
    (hrest : rest.head? ≠ some '+')
    (hinner : ∀ {text e rest}, IsQuery limit (level + 1) text e rest → Closes rest →
      Reads inner text e rest) :
    Reads (tagOrGroup inner) text e rest := by
  cases h with
  | tag _ htag =>
    have htag := reads_tag htag hrest
    exact (htag.bind (Reads.pure (Expr.tag _) _)).orElse
  | @group _ text _ _ _ hquery =>
    have htag : Misses tag ('(' :: text) := misses_tag fun c hc => by
      cases hc
      decide
    have hclose : Closes (')' :: rest) := fun c hc => by
      cases hc
      rfl
    refine htag.bind.orElse_reads ((reads_symbol .groupOpen _).bind ?_)
    exact (hinner hquery hclose).bind ((reads_symbol .groupClose _).bind (Reads.pure _ _))

/-- In front of a keyword there is no `+`. -/
theorem reads_tagOrGroup_keyword {inner : Parser Expr} {k : Keyword} {word middle : List Char}
    {before after : Nat} (hword : (Terminal.keyword k).Matches word)
    (h : IsOperand limit level text e (spaces before ++ word ++ spaces after ++ middle))
    (hinner : ∀ {text e rest}, IsQuery limit (level + 1) text e rest → Closes rest →
      Reads inner text e rest) :
    Reads (tagOrGroup inner) text e (spaces before ++ word ++ spaces after ++ middle) := by
  refine reads_tagOrGroup h (fun hplus => ?_) hinner
  exact absurd (by decide) (head_spaces_keyword hword before after middle '+' hplus)

theorem reads_negation {p : Parser Expr} {word operand : List Char} {before after : Nat}
    (hword : (Terminal.keyword .not).Matches word)
    (hoperand : IsOperand limit level operand e rest) (hp : Reads p operand e rest) :
    Reads (negation p) (spaces before ++ word ++ spaces after ++ operand) (.negation e) rest := by
  have hspace : operand.head? ≠ some ' ' := by
    obtain ⟨c, hc, hhead⟩ := hoperand.head_mem
    intro hspace
    cases hhead.symm.trans hspace
    exact absurd hc (by decide)
  rw [List.append_assoc, List.append_assoc]
  refine (reads_gap_keyword before hword _).bind ((reads_keyword hword _).bind ?_)
  exact (reads_gap after hspace).bind (hp.bind (Reads.pure _ _))

/-- The reader passes over all spaces after an operator, also over those that a negation begins
with. -/
theorem reads_chain {right : Parser Expr} {op : Operator} {word middle : List Char}
    {before after : Nat} (left : Expr) (hword : (Terminal.keyword (.operator op)).Matches word)
    (h : IsQuery limit level middle e rest)
    (hright : ∀ {text}, IsQuery limit level text e rest → Reads right text e rest) :
    Reads (chain left right) (spaces before ++ word ++ spaces after ++ middle) (.binary op left e)
      rest := by
  obtain ⟨count, text, rfl, hspace⟩ := exists_spaces_append middle
  rw [joint_append_spaces]
  refine (reads_operator hword hspace).optional.bind ?_
  exact (hright h.of_spaces_append).bind (Reads.pure _ _)

/-- A query that closes is read, if the levels reach to the limit. -/
theorem reads_query {levels : Nat} (hlevels : level + levels = limit + 1)
    (h : IsQuery limit level text e rest) (hrest : Closes rest) :
    Reads (query levels) text e rest := by
  -- On the levels and not on the derivation: what follows an operator without its spaces is none of
  -- the parts of the given derivation.
  refine (query_induction
    (P := fun levels p => ∀ {level text e rest}, level + levels = limit + 1 →
      IsQuery limit level text e rest → Closes rest → Reads p text e rest)
    (Q := fun levels p => ∀ {level text e rest}, level + levels = limit + 1 →
      IsOperand limit level text e rest → Closes rest → Reads p text e rest)
    ?_ ?_ ?_ ?_ levels).1 hlevels h hrest
  · intro level text e rest hlevels h _
    exact absurd h.level_le (by omega)
  · intro below hquery hoperand level text e rest hlevels h hrest
    have hbelow : ∀ {text e rest}, IsQuery limit (level + 1) text e rest → Closes rest →
        Reads (query below) text e rest := hquery (by omega)
    cases h with
    | operand h =>
      refine (reads_tagOrGroup h (hrest.head_ne (by decide)) hbelow).optional.bind ?_
      exact (misses_operator hrest).optional.bind (Reads.pure _ _)
    | negation hword h =>
      refine (misses_tagOrGroup_keyword (query below) hword _ _ _).optional.bind ?_
      exact reads_negation hword h (hoperand (by omega) h hrest)
    | binary hleft hword hright =>
      refine (reads_tagOrGroup_keyword hword hleft hbelow).optional.bind ?_
      exact reads_chain _ hword hright fun h => hbelow h hrest
  · intro level text e rest hlevels h _
    exact absurd h.level_le (by omega)
  · intro below hquery level text e rest hlevels h hrest
    exact reads_tagOrGroup h (hrest.head_ne (by decide)) (hquery (by omega))

end TagQuery.Parser
