import TagQuery.Proofs.Terminal

/-!
# How spellings begin and where they lie

* `tagOpenings`, `operandOpenings`: the characters that a tag and an operand begin with
  (`IsOperand.head_mem`). None of them is a space or begins a keyword, so a text says by its first
  character whether an operand or a negation may stand there.
* `IsQuery.of_space_cons`: only a negation has spaces in front, and it may lose one.
* `IsQuery.level_le`: a query lies within the limit.
-/

namespace TagQuery

variable {limit level : Nat} {text rest : List Char} {e : Expr}

/-! ## First characters -/

/-- What a tag begins with. -/
def tagOpenings : List Char :=
  ['s', 'k', 'c', 'r']

/-- What an operand begins with. -/
def operandOpenings : List Char :=
  '(' :: tagOpenings

theorem IsTag.head_mem {t : Tag} (h : IsTag text t rest) :
    ∃ c ∈ tagOpenings, text.head? = some c := by
  cases h <;> exact ⟨_, by decide, rfl⟩

theorem IsOperand.head_mem (h : IsOperand limit level text e rest) :
    ∃ c ∈ operandOpenings, text.head? = some c := by
  cases h with
  | tag _ htag =>
    obtain ⟨c, hc, hhead⟩ := htag.head_mem
    exact ⟨c, List.mem_cons_of_mem _ hc, hhead⟩
  | group => exact ⟨_, by decide, rfl⟩

/-- A first letter of a keyword is no character with another use at the same place. -/
theorem not_mem_of_toUpper {k : Keyword} {c : Char} (h : some c.toUpper = k.text.toList.head?) :
    c ∉ ' ' :: (operandOpenings ++ ['+', ')']) := by
  have hno : (' ' :: (operandOpenings ++ ['+', ')'])).all
      (fun c => some c.toUpper ≠ k.text.toList.head?) = true := by
    rcases k with op | _
    · cases op <;> decide
    · decide
  intro hc
  exact of_decide_eq_true (List.all_eq_true.mp hno c hc) h

/-- Spaces and a keyword begin like neither an operand, nor a `+`, nor a closing parenthesis. -/
theorem head_spaces_keyword {k : Keyword} {word : List Char}
    (h : (Terminal.keyword k).Matches word) (before after : Nat) (text : List Char) :
    ∀ c ∈ (spaces before ++ word ++ spaces after ++ text).head?,
      c ∉ operandOpenings ++ ['+', ')'] := by
  intro c hc
  cases before with
  | zero =>
    obtain ⟨d, tail, rfl, hupper⟩ := Terminal.exists_cons_of_matches h
    cases hc
    exact fun hmem => not_mem_of_toUpper hupper (List.mem_cons_of_mem _ hmem)
  | succ count =>
    cases hc
    decide

/-! ## Spaces in front -/

theorem spaces_append_spaces (m n : Nat) : spaces m ++ spaces n = spaces (m + n) :=
  List.replicate_append_replicate

theorem joint_append_spaces (before after count : Nat) (word tail : List Char) :
    spaces before ++ word ++ spaces after ++ (spaces count ++ tail) =
      spaces before ++ word ++ spaces (after + count) ++ tail := by
  simp only [← spaces_append_spaces, List.append_assoc]

/-- Every text is some spaces and what begins otherwise. -/
theorem exists_spaces_append (text : List Char) :
    ∃ count tail, text = spaces count ++ tail ∧ tail.head? ≠ some ' ' := by
  induction text with
  | nil => exact ⟨0, [], rfl, nofun⟩
  | cons c text ih =>
    by_cases hc : c = ' '
    · obtain ⟨count, tail, htext, htail⟩ := ih
      exact ⟨count + 1, tail, by rw [hc, htext]; rfl, htail⟩
    · exact ⟨0, c :: text, rfl, fun h => hc (Option.some.inj h)⟩

/-- Spaces in front belong to a negation, which may lose them. -/
theorem IsQuery.of_space_cons (h : IsQuery limit level (' ' :: text) e rest) :
    IsQuery limit level text e rest := by
  generalize htext : ' ' :: text = whole at h
  cases h with
  | operand h =>
    obtain ⟨c, hc, hhead⟩ := h.head_mem
    rw [← htext] at hhead
    cases hhead
    exact absurd hc (by decide)
  | binary h =>
    obtain ⟨c, hc, hhead⟩ := h.head_mem
    rw [← htext] at hhead
    cases hhead
    exact absurd hc (by decide)
  | @negation _ before _ _ _ _ _ hword hinner =>
    cases before with
    | succ before =>
      obtain ⟨-, rfl⟩ := List.cons.inj htext
      exact .negation hword hinner
    | zero =>
      obtain ⟨c, tail, rfl, hupper⟩ := Terminal.exists_cons_of_matches hword
      obtain ⟨rfl, -⟩ := List.cons.inj htext
      exact absurd List.mem_cons_self (not_mem_of_toUpper hupper)

theorem IsQuery.of_spaces_append {count : Nat}
    (h : IsQuery limit level (spaces count ++ text) e rest) : IsQuery limit level text e rest := by
  induction count with
  | zero => exact h
  | succ count ih => exact ih h.of_space_cons

/-! ## Levels -/

theorem IsOperand.level_le (h : IsOperand limit level text e rest) : level ≤ limit := by
  cases h with
  | tag within => exact within
  | group within => exact within

theorem IsQuery.level_le (h : IsQuery limit level text e rest) : level ≤ limit := by
  cases h with
  | operand h => exact h.level_le
  | negation _ h => exact Nat.le_of_succ_le h.level_le
  | binary h => exact h.level_le

end TagQuery
