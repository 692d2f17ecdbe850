import TagQuery.Proofs.Language.Beginning
import TagQuery.Proofs.Language.Completeness
import TagQuery.Proofs.Language.Passage

/-!
# Running out of levels

The texts after which the reader gives up, said without the reader.

* `OverrunsOperand limit level text`, `OverrunsQuery limit level text`: the text begins an operand
  or a query on a level, and where it ends another operand would lie just below the limit.
* `OverrunsQuery.begins`: one level more, and some text after it makes it a query.
  `OverrunsQuery.lt_length`: it has more characters than there are levels from its own to the limit.
* `Parser.overrunsQuery_of_tooDeep`: where the reader gives up, what it has read overruns.
* `Parser.runsOut_query`: on a text that begins so the reader gives up, whatever comes after, and
  not before this beginning ends.
-/

namespace TagQuery

mutual

/-- Beginnings of an operand that end where an operand lies just below the limit. -/
inductive OverrunsOperand (limit : Nat) : (level : Nat) → (text : List Char) → Prop where
  | here : OverrunsOperand limit (limit + 1) []
  | group {level text} (within : level ≤ limit) :
      OverrunsQuery limit (level + 1) text → OverrunsOperand limit level ('(' :: text)

/-- Beginnings of a query that end where an operand lies just below the limit. -/
inductive OverrunsQuery (limit : Nat) : (level : Nat) → (text : List Char) → Prop where
  | operand {level text} : OverrunsOperand limit level text → OverrunsQuery limit level text
  | negation {level before after word text} (within : level ≤ limit) :
      (Terminal.keyword .not).Matches word → OverrunsOperand limit (level + 1) text →
      OverrunsQuery limit level (spaces before ++ word ++ spaces after ++ text)
  | binary {level before after op word text left middle} :
      IsOperand limit level text left (spaces before ++ word ++ spaces after ++ middle) →
      (Terminal.keyword (.operator op)).Matches word →
      OverrunsQuery limit (level + 1) middle →
      OverrunsQuery limit level text

end

/-! ## One level more -/

mutual

theorem OverrunsOperand.begins {limit level : Nat} {text : List Char} :
    OverrunsOperand limit level text → Begins (IsOperand (limit + 1) level) text
  | .here => Begins.operand_nil (Nat.le_refl _)
  | .group within hquery => (OverrunsQuery.begins hquery).group (Nat.le_succ_of_le within)

/-- One level more is enough to go on with a text that overruns. -/
theorem OverrunsQuery.begins {limit level : Nat} {text : List Char} :
    OverrunsQuery limit level text → Begins (IsQuery (limit + 1) level) text
  | .operand h => (OverrunsOperand.begins h).operand
  | @OverrunsQuery.negation _ _ before after _ _ _ hword h =>
    (OverrunsOperand.begins h).negation hword before after
  | @OverrunsQuery.binary _ _ before after op word _ left middle hleft hword h => by
    obtain ⟨first, rfl, hends⟩ := hleft.endsIn
    have hleft := hends.before_keyword hword (List.append_assoc _ _ _) after
    have hbinary := Begins.binary hword (fun text => (hleft text).mono (Nat.le_succ _))
      (OverrunsQuery.begins h)
    rwa [List.append_assoc first] at hbinary

end

/-! ## Levels and characters -/

mutual

theorem OverrunsOperand.lt_length {limit level : Nat} {text : List Char} :
    OverrunsOperand limit level text → limit < level + text.length
  | .here => Nat.lt_succ_self limit
  | .group _ hquery => by
    have hlt := OverrunsQuery.lt_length hquery
    rw [List.length_cons]
    omega

/-- Every level costs a character at least. -/
theorem OverrunsQuery.lt_length {limit level : Nat} {text : List Char} :
    OverrunsQuery limit level text → limit < level + text.length
  | .operand h => OverrunsOperand.lt_length h
  | .negation _ hword h => by
    have hlt := OverrunsOperand.lt_length h
    obtain ⟨c, tail, rfl, -⟩ := Terminal.exists_cons_of_matches hword
    simp only [List.length_append, List.length_cons]
    omega
  | .binary hleft hword h => by
    have hlt := OverrunsQuery.lt_length h
    obtain ⟨first, rfl, -⟩ := hleft.endsIn
    obtain ⟨c, tail, rfl, -⟩ := Terminal.exists_cons_of_matches hword
    simp only [List.length_append, List.length_cons]
    omega

end

variable {limit level : Nat} {text rest : List Char} {e : Expr}

/-- Below the limit nothing is read any more. -/
theorem OverrunsQuery.eq_nil (h : OverrunsQuery limit (limit + 1) text) : text = [] := by
  cases h with
  | operand h =>
    cases h with
    | here => rfl
    | group within => omega
  | negation within => omega
  | binary hleft =>
    have hle := hleft.level_le
    omega

/-! ## Spaces in front -/

theorem OverrunsOperand.head_mem (h : OverrunsOperand limit level text) :
    ∀ c ∈ text.head?, c ∈ operandOpenings := by
  intro c hc
  cases h with
  | here => cases hc
  | group =>
    cases hc
    exact List.mem_cons_self

/-- Spaces in front belong to a negation, which may lose them. -/
theorem OverrunsQuery.of_space_cons (h : OverrunsQuery limit level (' ' :: text)) :
    OverrunsQuery limit level text := by
  generalize htext : ' ' :: text = whole at h
  cases h with
  | operand h =>
    have hspace := h.head_mem ' ' (htext ▸ rfl)
    exact absurd hspace (by decide)
  | binary hleft =>
    obtain ⟨c, hc, hhead⟩ := hleft.head_mem
    rw [← htext] at hhead
    cases hhead
    exact absurd hc (by decide)
  | @negation _ before _ _ _ within hword hoperand =>
    cases before with
    | succ before =>
      obtain ⟨-, rfl⟩ := List.cons.inj htext
      exact .negation within hword hoperand
    | zero =>
      obtain ⟨c, tail, rfl, hupper⟩ := Terminal.exists_cons_of_matches hword
      obtain ⟨rfl, -⟩ := List.cons.inj htext
      exact absurd List.mem_cons_self (not_mem_of_toUpper hupper)

/-- The reader passes over all spaces in front. A beginning that overruns still does so without
them, and if there are more of them than it has, then all of it is spaces. -/
theorem OverrunsQuery.of_spaces {count : Nat} {tail : List Char} (h : OverrunsQuery limit level text)
    (htext : text ++ rest = spaces count ++ tail) :
    ∃ text' rest', tail = text' ++ rest' ∧ rest'.length ≤ rest.length ∧
      OverrunsQuery limit level text' := by
  induction count generalizing text rest with
  | zero => exact ⟨text, rest, htext.symm, Nat.le_refl _, h⟩
  | succ count ih =>
    have hcons : text ++ rest = ' ' :: (spaces count ++ tail) := htext
    cases text with
    | nil =>
      have hnil : [] ++ (spaces count ++ tail) = spaces count ++ tail := rfl
      obtain ⟨text', rest', htail, hlength, hover⟩ := ih h hnil
      have hrest : rest.length = (spaces count ++ tail).length + 1 := congrArg List.length hcons
      exact ⟨text', rest', htail, by omega, hover⟩
    | cons c text =>
      obtain ⟨rfl, hrest⟩ := List.cons.inj hcons
      exact ih h.of_space_cons hrest

theorem OverrunsOperand.of_spaces {count : Nat} {tail : List Char}
    (h : OverrunsOperand limit level text) (htext : text ++ rest = spaces count ++ tail) :
    ∃ text' rest', tail = text' ++ rest' ∧ rest'.length ≤ rest.length ∧
      OverrunsOperand limit level text' := by
  cases h with
  | here =>
    have hrest : rest = spaces count ++ tail := htext
    refine ⟨[], tail, rfl, ?_, .here⟩
    rw [hrest, List.length_append]
    exact Nat.le_add_left _ _
  | @group _ inner within hquery =>
    cases count with
    | zero => exact ⟨'(' :: inner, rest, htext.symm, Nat.le_refl _, .group within hquery⟩
    | succ count =>
      obtain ⟨hhead, -⟩ := List.cons.inj htext
      exact absurd hhead (by decide)

namespace Parser

variable {cursor : Cursor} {column : Nat}

/-! ## Where the reader gives up -/

theorem overrunsOperand_of_tooDeep {inner : Parser Expr} (within : level ≤ limit)
    (hinner : ∀ {cursor column}, (inner cursor).reply = .tooDeep column →
      cursor.UpTo column (OverrunsQuery limit (level + 1)))
    (h : (tagOrGroup inner cursor).reply = .tooDeep column) :
    cursor.UpTo column (OverrunsOperand limit level) := by
  rcases reply_orElse_eq_tooDeep.mp h with h | ⟨-, h⟩
  · exact absurd h (flat_tag.bind (fun _ => flat_pure _) cursor column)
  · rcases reply_bind_eq_tooDeep.mp h with h | ⟨_, middle, hopen, h⟩
    · exact absurd h (flat_terminal _ cursor column)
    · rcases reply_bind_eq_tooDeep.mp h with h | ⟨_, last, -, h⟩
      · exact (symbol_passes hopen).upTo (hinner h) (.group within)
      · exact absurd h ((flat_terminal _).bind (fun _ => flat_pure _) last column)

theorem overrunsQuery_of_tooDeep_negation {p : Parser Expr} (within : level ≤ limit)
    (hp : ∀ {cursor column}, (p cursor).reply = .tooDeep column →
      cursor.UpTo column (OverrunsOperand limit (level + 1)))
    (h : (negation p cursor).reply = .tooDeep column) :
    cursor.UpTo column (OverrunsQuery limit level) := by
  rcases reply_bind_eq_tooDeep.mp h with h | ⟨_, first, hbefore, h⟩
  · exact absurd h (flat_skip _ cursor column)
  rcases reply_bind_eq_tooDeep.mp h with h | ⟨_, second, hword, h⟩
  · exact absurd h (flat_terminal _ first column)
  rcases reply_bind_eq_tooDeep.mp h with h | ⟨_, third, hafter, h⟩
  · exact absurd h (flat_skip _ second column)
  rcases reply_bind_eq_tooDeep.mp h with h | ⟨e, last, -, h⟩
  · obtain ⟨before, hbefore⟩ := gap_passes hbefore
    obtain ⟨word, hmatches, hword⟩ := keyword_passes hword
    obtain ⟨after, hafter⟩ := gap_passes hafter
    exact ((hbefore.trans hword).trans hafter).upTo (hp h) (.negation within hmatches)
  · exact absurd h (flat_pure _ last column)

/-- After the first operand only another query can nest too deep. -/
theorem overrunsQuery_of_tooDeep_chain {right : Parser Expr} {first : List Char} {left : Expr}
    (hends : EndsIn (IsOperand limit level) first left cursor.rest)
    (hright : ∀ {cursor column}, (right cursor).reply = .tooDeep column →
      cursor.UpTo column (OverrunsQuery limit (level + 1)))
    (h : (chain left right cursor).reply = .tooDeep column) :
    cursor.UpTo column fun read => OverrunsQuery limit level (first ++ read) := by
  rcases reply_bind_eq_tooDeep.mp h with hjoint | ⟨_, middle, hjoint, hend⟩
  · exact absurd (reply_optional_eq_tooDeep.mp hjoint) (flat_operator cursor column)
  rcases reply_optional_eq_done.mp hjoint with ⟨op, hop, rfl⟩ | ⟨-, rfl, rfl⟩
  · rcases reply_bind_eq_tooDeep.mp hend with hlink | ⟨_, next, -, hpure⟩
    · obtain ⟨before, word, after, hword, hop⟩ := operator_passes hop
      refine hop.upTo (hright hlink) fun hread => ?_
      have hrest := hop.rest_eq.trans (List.append_assoc _ _ _)
      exact .binary (hends.before_keyword hword hrest after _) hword hread
    · exact absurd hpure (flat_pure _ next column)
  · exact absurd hend (flat_pure _ _ column)

/-- Where the reader gives up on a query, what it has read of it overruns. -/
theorem overrunsQuery_of_tooDeep {levels : Nat} (hlevels : level + levels = limit + 1)
    (h : (query levels cursor).reply = .tooDeep column) :
    cursor.UpTo column (OverrunsQuery limit level) := by
  refine (query_induction
    (P := fun levels p => ∀ {level cursor column}, level + levels = limit + 1 →
      (p cursor).reply = .tooDeep column → cursor.UpTo column (OverrunsQuery limit level))
    (Q := fun levels p => ∀ {level cursor column}, level + levels = limit + 1 →
      (p cursor).reply = .tooDeep column → cursor.UpTo column (OverrunsOperand limit level))
    ?_ ?_ ?_ ?_ levels).1 hlevels h
  · intro level cursor column hlevels h
    cases h
    obtain rfl : level = limit + 1 := hlevels
    exact .here (.operand .here)
  · intro below hquery hoperand level cursor column hlevels h
    have within : level ≤ limit := by omega
    rcases reply_bind_eq_tooDeep.mp h with hfirst | ⟨_, middle, hfirst, hthen⟩
    · have hoperand := overrunsOperand_of_tooDeep within
        (hquery (by omega)) (reply_optional_eq_tooDeep.mp hfirst)
      exact hoperand.mono .operand
    rcases reply_optional_eq_done.mp hfirst with ⟨left, hleft, rfl⟩ | ⟨-, rfl, rfl⟩
    · obtain ⟨first, hpasses, hends⟩ := operand_passes hlevels hleft
      exact hpasses.upTo (overrunsQuery_of_tooDeep_chain hends (hquery (by omega)) hthen) id
    · exact overrunsQuery_of_tooDeep_negation within (hoperand (by omega)) hthen
  · intro level cursor column hlevels h
    cases h
    obtain rfl : level = limit + 1 := hlevels
    exact .here .here
  · intro below hquery level cursor column hlevels h
    exact overrunsOperand_of_tooDeep (by omega) (hquery (by omega)) h

/-! ## Texts on which the reader gives up -/

variable {α β : Type} {p q : Parser α} {f : α → Parser β} {a : α} {middle : List Char}
  {spare : Nat}

/-- The parser gives up on the text, with no more than so many characters still to come. -/
def RunsOut (p : Parser α) (text : List Char) (spare : Nat) : Prop :=
  ∀ column, ∃ deep, column + text.length ≤ deep + spare ∧
    (p ⟨column, text⟩).reply = .tooDeep deep

theorem RunsOut.bind (hp : RunsOut p text spare) : RunsOut (p >>= f) text spare := by
  intro column
  obtain ⟨deep, hle, hdeep⟩ := hp column
  exact ⟨deep, hle, reply_bind_eq_tooDeep.mpr (.inl hdeep)⟩

theorem Reads.bind_runsOut (hp : Reads p text a middle) (hforward : Forward p)
    (hf : RunsOut (f a) middle spare) : RunsOut (p >>= f) text spare := by
  intro column
  obtain ⟨next, hnext⟩ := hp column
  obtain ⟨deep, hle, hdeep⟩ := hf next
  have htotal : next + middle.length = column + text.length := (hforward _ a _ hnext).total
  exact ⟨deep, by omega, reply_bind_eq_tooDeep.mpr (.inr ⟨a, _, hnext, hdeep⟩)⟩

theorem Misses.orElse_runsOut (hp : Misses p text) (hq : RunsOut q text spare) :
    RunsOut (Parser.orElse p q) text spare := by
  intro column
  obtain ⟨deep, hle, hdeep⟩ := hq column
  exact ⟨deep, hle, reply_orElse_eq_tooDeep.mpr (.inr ⟨hp column, hdeep⟩)⟩

theorem RunsOut.optional (hp : RunsOut p text spare) : RunsOut (Parser.optional p) text spare := by
  intro column
  obtain ⟨deep, hle, hdeep⟩ := hp column
  exact ⟨deep, hle, reply_optional_eq_tooDeep.mpr hdeep⟩

theorem RunsOut.mono {more : Nat} (hp : RunsOut p text spare) (hle : spare ≤ more) :
    RunsOut p text more := by
  intro column
  obtain ⟨deep, hdeep, hreply⟩ := hp column
  exact ⟨deep, by omega, hreply⟩

theorem runsOut_tooDeep (h : text.length ≤ spare) :
    RunsOut (tooDeep : Parser α) text spare :=
  fun column => ⟨column, by omega, rfl⟩

theorem runsOut_tagOrGroup {inner : Parser Expr} (h : RunsOut inner text spare) :
    RunsOut (tagOrGroup inner) ('(' :: text) spare := by
  have htag : Misses tag ('(' :: text) := misses_tag fun c hc => by
    cases hc
    decide
  refine htag.bind.orElse_runsOut ?_
  exact (reads_symbol .groupOpen text).bind_runsOut (forward_terminal _) h.bind

/-- The reader passes over all spaces after the word, also over those that are still to come. -/
theorem runsOut_negation {p : Parser Expr} {word : List Char} {before after : Nat}
    (hword : (Terminal.keyword .not).Matches word) (h : OverrunsOperand limit level text)
    (rest : List Char) (hp : ∀ {text}, OverrunsOperand limit level text → ∀ rest,
      RunsOut p (text ++ rest) rest.length) :
    RunsOut (negation p) (spaces before ++ word ++ spaces after ++ text ++ rest) rest.length := by
  obtain ⟨count, tail, htail, hspace⟩ := exists_spaces_append (text ++ rest)
  obtain ⟨text', rest', rfl, hlength, hover⟩ := h.of_spaces htail
  rw [List.append_assoc _ text, htail, joint_append_spaces, List.append_assoc, List.append_assoc]
  refine (reads_gap_keyword before hword _).bind_runsOut (forward_skip .space) ?_
  refine (reads_keyword hword _).bind_runsOut (forward_terminal _) ?_
  refine (reads_gap _ hspace).bind_runsOut (forward_skip .space) ?_
  exact ((hp hover rest').mono hlength).bind

/-- The same after an operator. -/
theorem runsOut_chain {right : Parser Expr} {op : Operator} {word : List Char} {before after : Nat}
    (left : Expr) (hword : (Terminal.keyword (.operator op)).Matches word)
    (h : OverrunsQuery limit level text) (rest : List Char)
    (hright : ∀ {text}, OverrunsQuery limit level text → ∀ rest,
      RunsOut right (text ++ rest) rest.length) :
    RunsOut (chain left right) (spaces before ++ word ++ spaces after ++ text ++ rest)
      rest.length := by
  obtain ⟨count, tail, htail, hspace⟩ := exists_spaces_append (text ++ rest)
  obtain ⟨text', rest', rfl, hlength, hover⟩ := h.of_spaces htail
  rw [List.append_assoc _ text, htail, joint_append_spaces]
  refine (reads_operator hword hspace).optional.bind_runsOut consumes_operator.forward.optional ?_
  exact ((hright hover rest').mono hlength).bind

/-- On a text that begins with one that overruns, the reader gives up, and not before it ends. -/
theorem runsOut_query {levels : Nat} (hlevels : level + levels = limit + 1)
    (h : OverrunsQuery limit level text) (rest : List Char) :
    RunsOut (query levels) (text ++ rest) rest.length := by
  refine (query_induction
    (P := fun levels p => ∀ {level text}, level + levels = limit + 1 →
      OverrunsQuery limit level text → ∀ rest, RunsOut p (text ++ rest) rest.length)
    (Q := fun levels p => ∀ {level text}, level + levels = limit + 1 →
      OverrunsOperand limit level text → ∀ rest, RunsOut p (text ++ rest) rest.length)
    ?_ ?_ ?_ ?_ levels).1 hlevels h rest
  · intro level text hlevels h rest
    obtain rfl : level = limit + 1 := hlevels
    obtain rfl := h.eq_nil
    exact runsOut_tooDeep (Nat.le_refl _)
  · intro below hquery hoperand level text hlevels h rest
    have hforward := (consumes_tagOrGroup (forward_query below)).forward.optional
    cases h with
    | operand h =>
      cases h with
      | here => omega
      | group _ hinner => exact (runsOut_tagOrGroup (hquery (by omega) hinner rest)).optional.bind
    | @negation _ before after word text _ hword h =>
      have hfirst := misses_tagOrGroup_keyword (query below) hword before after (text ++ rest)
      rw [← List.append_assoc] at hfirst
      refine hfirst.optional.bind_runsOut hforward ?_
      exact runsOut_negation hword h rest (hoperand (by omega))
    | @binary _ before after op word _ left middle hleft hword h =>
      obtain ⟨first, rfl, hends⟩ := hleft.endsIn
      have hleft := hends.before_keyword hword (List.append_assoc _ _ _) after (middle ++ rest)
      have hinner : ∀ {text e rest}, IsQuery limit (level + 1) text e rest → Closes rest →
          Reads (query below) text e rest := reads_query (by omega)
      have hfirst := reads_tagOrGroup_keyword hword hleft hinner
      rw [← List.append_assoc _ middle] at hfirst
      rw [List.append_assoc first]
      refine hfirst.optional.bind_runsOut hforward ?_
      exact runsOut_chain left hword h rest (hquery (by omega))
  · intro level text hlevels h rest
    obtain rfl : level = limit + 1 := hlevels
    obtain rfl := (OverrunsQuery.operand h).eq_nil
    exact runsOut_tooDeep (Nat.le_refl _)
  · intro below hquery level text hlevels h rest
    cases h with
    | here => omega
    | group _ hinner => exact runsOut_tagOrGroup (hquery (by omega) hinner rest)

end Parser

end TagQuery
