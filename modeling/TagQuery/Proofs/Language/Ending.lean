import TagQuery.Proofs.Language.Canonical
import TagQuery.Proofs.Language.Spelling

/-!
# What may follow a spelling

* `IsOperand.mono`, `IsQuery.mono`: a spelling stays one under a higher limit.
* `EndsIn R read a rest`: `read` spells `a` in front of `rest`, and it ends either in a mark, after
  which anything may follow, or in a word, which further letters and digits make longer.
* `IsOperand.endsIn`, `IsQuery.endsIn`: every spelling does. So it is one in front of any other text
  that begins alike (`EndsIn.of_head_eq`) or that ends a word (`EndsIn.of_endsWord`).
-/

namespace TagQuery

variable {α β : Type} {limit higher level : Nat} {text read rest rest' : List Char} {e : Expr}

/-! ## Under a higher limit -/

mutual

theorem IsOperand.mono {limit higher level : Nat} {text rest : List Char} {e : Expr}
    (h : limit ≤ higher) : IsOperand limit level text e rest → IsOperand higher level text e rest
  | .tag within htag => .tag (Nat.le_trans within h) htag
  | .group within hquery => .group (Nat.le_trans within h) (hquery.mono h)

theorem IsQuery.mono {limit higher level : Nat} {text rest : List Char} {e : Expr}
    (h : limit ≤ higher) : IsQuery limit level text e rest → IsQuery higher level text e rest
  | .operand hoperand => .operand (hoperand.mono h)
  | .negation hword hoperand => .negation hword (hoperand.mono h)
  | .binary hleft hword hright => .binary (hleft.mono h) hword (hright.mono h)

end

/-! ## Marks and words -/

theorem endsWord_nil : EndsWord [] := nofun

theorem endsWord_cons {c : Char} (hc : c.isAlphanum = false) (rest : List Char) :
    EndsWord (c :: rest) := by
  intro d hd
  cases hd
  rw [hc]
  exact Bool.false_ne_true

/-- How a spelling ends that `rest` follows. -/
inductive EndsIn (R : List Char → α → List Char → Prop) (read : List Char) (a : α)
    (rest : List Char) : Prop where
  /-- Anything may follow. -/
  | mark (any : ∀ rest, R (read ++ rest) a rest)
  /-- Letters and digits that follow belong to it, and make it another spelling. -/
  | word (ends : EndsWord rest) (same : ∀ rest, EndsWord rest → R (read ++ rest) a rest)
      (longer : ∀ letters, (∀ c ∈ letters, c.isAlphanum) →
        ∃ b, ∀ rest, EndsWord rest → R (read ++ letters ++ rest) b rest)

namespace EndsIn

variable {R : List Char → α → List Char → Prop} {S : List Char → β → List Char → Prop} {a : α}

theorem of_endsWord (h : EndsIn R read a rest) (hends : EndsWord rest') :
    R (read ++ rest') a rest' := by
  cases h with
  | mark any => exact any rest'
  | word _ same _ => exact same rest' hends

/-- A spelling depends on the first character of the rest at most. -/
theorem of_head_eq (h : EndsIn R read a rest) (hhead : rest'.head? = rest.head?) :
    R (read ++ rest') a rest' := by
  cases h with
  | mark any => exact any rest'
  | word ends same _ =>
    refine same rest' fun c hc => ends c ?_
    rwa [hhead] at hc

/-- What holds of every spelling behind another beginning holds of how it ends there. -/
theorem map (first : List Char) (f : α → β)
    (hmap : ∀ {text a rest}, R text a rest → S (first ++ text) (f a) rest)
    (h : EndsIn R read a rest) : EndsIn S (first ++ read) (f a) rest := by
  cases h with
  | mark any =>
    refine .mark fun rest => ?_
    rw [List.append_assoc]
    exact hmap (any rest)
  | word ends same longer =>
    refine .word ends (fun rest hrest => ?_) fun letters hletters => ?_
    · rw [List.append_assoc]
      exact hmap (same rest hrest)
    · obtain ⟨b, hb⟩ := longer letters hletters
      refine ⟨f b, fun rest hrest => ?_⟩
      rw [List.append_assoc first, List.append_assoc first]
      exact hmap (hb rest hrest)

end EndsIn

/-! ## How spellings end -/

theorem IsValue.endsIn {value : String} (h : IsValue text value rest) :
    ∃ read, text = read ++ rest ∧ EndsIn IsValue read value rest := by
  cases h with
  | @bare word rest hne hword hends =>
    refine ⟨word, rfl, .word hends (fun rest hrest => .bare hne hword hrest) ?_⟩
    intro letters hletters
    refine ⟨String.ofList (word ++ letters), fun rest hrest => ?_⟩
    refine .bare (fun hnil => hne (List.append_eq_nil_iff.mp hnil).1) (fun c hc => ?_) hrest
    exact (List.mem_append.mp hc).elim (hword c) (hletters c)
  | @quoted body rest hne hbody =>
    refine ⟨'"' :: body ++ ['"'], by simp, .mark fun rest => ?_⟩
    have hquoted : IsValue ('"' :: body ++ '"' :: rest) (String.ofList body) rest :=
      .quoted hne hbody
    simpa using hquoted

theorem IsTag.endsIn {t : Tag} (h : IsTag text t rest) :
    ∃ read, text = read ++ rest ∧ EndsIn IsTag read t rest := by
  cases h with
  | semantic hvalue =>
    obtain ⟨read, rfl, hends⟩ := hvalue.endsIn
    exact ⟨['s', ':'] ++ read, rfl, hends.map ['s', ':'] (Tag.semantic · false) .semantic⟩
  | @synonyms _ value _ hvalue =>
    obtain ⟨read, rfl, hends⟩ := hvalue.endsIn
    refine ⟨'s' :: ':' :: (read ++ ['+', 's']), by simp, .mark fun rest => ?_⟩
    have hvalue : IsValue (read ++ '+' :: 's' :: rest) value ('+' :: 's' :: rest) :=
      hends.of_endsWord (endsWord_cons rfl _)
    simpa using IsTag.synonyms hvalue
  | keyword hvalue =>
    obtain ⟨read, rfl, hends⟩ := hvalue.endsIn
    exact ⟨['k', ':'] ++ read, rfl, hends.map ['k', ':'] Tag.keyword .keyword⟩
  | comment hvalue =>
    obtain ⟨read, rfl, hends⟩ := hvalue.endsIn
    exact ⟨['c', ':'] ++ read, rfl, hends.map ['c', ':'] Tag.comment .comment⟩
  | @regex body rest hne hclass =>
    refine ⟨'r' :: ':' :: '/' :: body ++ ['/'], by simp, .mark fun rest => ?_⟩
    have htag : IsTag ('r' :: ':' :: '/' :: body ++ '/' :: rest) (.regex (String.ofList body)) rest :=
      .regex hne hclass
    simpa using htag

/-- In front of a keyword, what comes after the keyword does not matter. -/
theorem EndsIn.before_keyword {R : List Char → α → List Char → Prop} {a : α} {k : Keyword}
    {word tail : List Char} {before : Nat} (h : EndsIn R read a rest)
    (hword : (Terminal.keyword k).Matches word) (hrest : rest = spaces before ++ word ++ tail)
    (after : Nat) (text : List Char) :
    R (read ++ (spaces before ++ word ++ spaces after ++ text)) a
      (spaces before ++ word ++ spaces after ++ text) := by
  refine h.of_head_eq ?_
  obtain ⟨c, letters, rfl, -⟩ := Terminal.exists_cons_of_matches hword
  rw [hrest]
  cases before <;> rfl

mutual

theorem IsOperand.endsIn {limit level : Nat} {text rest : List Char} {e : Expr} :
    IsOperand limit level text e rest →
      ∃ read, text = read ++ rest ∧ EndsIn (IsOperand limit level) read e rest
  | .tag within htag => by
    obtain ⟨read, hread, hends⟩ := htag.endsIn
    exact ⟨read, hread, hends.map [] Expr.tag (.tag within)⟩
  | .group within hquery => by
    obtain ⟨read, rfl, hends⟩ := IsQuery.endsIn hquery
    refine ⟨'(' :: (read ++ [')']), by simp, .mark fun rest => ?_⟩
    have hgroup := IsOperand.group within (hends.of_endsWord (endsWord_cons rfl rest))
    simpa using hgroup

theorem IsQuery.endsIn {limit level : Nat} {text rest : List Char} {e : Expr} :
    IsQuery limit level text e rest →
      ∃ read, text = read ++ rest ∧ EndsIn (IsQuery limit level) read e rest
  | .operand h => by
    obtain ⟨read, hread, hends⟩ := IsOperand.endsIn h
    exact ⟨read, hread, hends.map [] id .operand⟩
  | @IsQuery.negation _ _ before after word _ _ _ hword h => by
    obtain ⟨read, rfl, hends⟩ := IsOperand.endsIn h
    refine ⟨spaces before ++ word ++ spaces after ++ read, by simp, ?_⟩
    exact hends.map (spaces before ++ word ++ spaces after) Expr.negation (.negation hword)
  | @IsQuery.binary _ _ before after op word _ left _ _ middle hleft hword hright => by
    obtain ⟨readLeft, rfl, hendsLeft⟩ := IsOperand.endsIn hleft
    obtain ⟨read, rfl, hends⟩ := IsQuery.endsIn hright
    refine ⟨readLeft ++ (spaces before ++ word ++ spaces after) ++ read, by simp, ?_⟩
    refine hends.map _ (Expr.binary op left) fun {text e rest} hquery => ?_
    rw [List.append_assoc]
    have hleft := hendsLeft.before_keyword hword (List.append_assoc _ _ _) after text
    exact .binary hleft hword hquery

end

end TagQuery
