import TagQuery.Proofs.Language.Ending

/-!
# What a spelling may begin with

* `Begins R read`: some text after `read` makes it a spelling in front of all that ends a word.
* `Begins.group`, `Begins.negation`, `Begins.binary` and so on: what the constructors of the
  relations say about beginnings.
-/

namespace TagQuery

variable {α β : Type} {limit level : Nat} {text read rest : List Char} {e left : Expr}

/-- A spelling begins with the text, for some tail and some meaning. -/
def Begins (R : List Char → α → List Char → Prop) (read : List Char) : Prop :=
  ∃ tail a, ∀ rest, EndsWord rest → R (read ++ tail ++ rest) a rest

namespace Begins

variable {R : List Char → α → List Char → Prop} {S : List Char → β → List Char → Prop} {a : α}

/-- What a beginning begins with is a beginning too. -/
theorem of_append {more : List Char} (h : Begins R (read ++ more)) : Begins R read := by
  obtain ⟨tail, a, ha⟩ := h
  refine ⟨more ++ tail, a, fun rest hrest => ?_⟩
  rw [← List.append_assoc read]
  exact ha rest hrest

/-- A spelling may go on with letters and digits, or else end before them. -/
theorem of_letters (h : EndsIn R read a rest) {letters : List Char}
    (hletters : ∀ c ∈ letters, c.isAlphanum) :
    Begins R (read ++ letters) ∨ ∀ rest, R (read ++ rest) a rest := by
  cases h with
  | mark any => exact .inr any
  | word _ _ longer =>
    obtain ⟨b, hb⟩ := longer letters hletters
    exact .inl ⟨[], b, by simpa using hb⟩

theorem map (first : List Char) (f : α → β)
    (hmap : ∀ {text a rest}, R text a rest → S (first ++ text) (f a) rest) (h : Begins R read) :
    Begins S (first ++ read) := by
  obtain ⟨tail, a, ha⟩ := h
  refine ⟨tail, f a, fun rest hrest => ?_⟩
  rw [List.append_assoc first, List.append_assoc first]
  exact hmap (ha rest hrest)

end Begins

/-! ## Tags -/

theorem begins_value_nil : Begins IsValue [] := by
  refine ⟨['a'], "a", fun rest hrest => .bare (List.cons_ne_nil 'a' []) (fun c hc => ?_) hrest⟩
  rw [List.mem_singleton.mp hc]
  decide

/-- Every kind of tag begins with its opening. -/
theorem begins_opening (kind : TagKind) : Begins IsTag (Symbol.opening kind).text.toList := by
  cases kind with
  | semantic => exact begins_value_nil.map ['s', ':'] (Tag.semantic · false) .semantic
  | keyword => exact begins_value_nil.map ['k', ':'] Tag.keyword .keyword
  | comment => exact begins_value_nil.map ['c', ':'] Tag.comment .comment
  | regex =>
    refine ⟨['a', '/'], .regex "a", fun rest _ => .regex (List.cons_ne_nil 'a' []) fun c hc => ?_⟩
    rw [List.mem_singleton.mp hc]
    decide

/-! ## Operands and queries -/

namespace Begins

theorem tag (within : level ≤ limit) (h : Begins IsTag read) :
    Begins (IsOperand limit level) read :=
  h.map [] Expr.tag (.tag within)

/-- An operand may begin on every level within the limit. -/
theorem operand_nil (within : level ≤ limit) : Begins (IsOperand limit level) [] := by
  obtain ⟨tail, t, ht⟩ := begins_opening .comment
  refine ⟨(Symbol.opening .comment).text.toList ++ tail, .tag t, fun rest hrest => ?_⟩
  exact .tag within (ht rest hrest)

theorem group (within : level ≤ limit) (h : Begins (IsQuery limit (level + 1)) read) :
    Begins (IsOperand limit level) ('(' :: read) := by
  obtain ⟨tail, e, he⟩ := h
  refine ⟨tail ++ [')'], e, fun rest _ => ?_⟩
  simpa using IsOperand.group within (he (')' :: rest) (endsWord_cons rfl rest))

theorem operand (h : Begins (IsOperand limit level) read) : Begins (IsQuery limit level) read :=
  h.map [] id .operand

theorem query_nil (within : level ≤ limit) : Begins (IsQuery limit level) [] :=
  (operand_nil within).operand

theorem negation {word : List Char} (hword : (Terminal.keyword .not).Matches word)
    (before after : Nat) (h : Begins (IsOperand limit (level + 1)) read) :
    Begins (IsQuery limit level) (spaces before ++ word ++ spaces after ++ read) :=
  h.map _ Expr.negation (.negation hword)

theorem binary {op : Operator} {first word : List Char} {before after : Nat}
    (hword : (Terminal.keyword (.operator op)).Matches word)
    (hleft : ∀ text, IsOperand limit level (first ++ (spaces before ++ word ++ spaces after ++ text))
      left (spaces before ++ word ++ spaces after ++ text))
    (h : Begins (IsQuery limit (level + 1)) read) :
    Begins (IsQuery limit level) (first ++ (spaces before ++ word ++ spaces after) ++ read) := by
  refine h.map _ (Expr.binary op left) fun {text _ _} hright => ?_
  rw [List.append_assoc]
  exact .binary (hleft text) hword hright

/-- Another operand may begin where an operator and its spaces end. -/
theorem link {op : Operator} {first word : List Char} {before after : Nat} (within : level < limit)
    (hword : (Terminal.keyword (.operator op)).Matches word)
    (hleft : ∀ text, IsOperand limit level (first ++ (spaces before ++ word ++ spaces after ++ text))
      left (spaces before ++ word ++ spaces after ++ text)) :
    Begins (IsQuery limit level) (first ++ (spaces before ++ word ++ spaces after)) := by
  have hbinary := binary hword hleft (query_nil within)
  rwa [List.append_nil] at hbinary

/-- An operator may come after every operand. Without a space in between it may be part of the
operand, if this ends in a word. -/
theorem operator {op : Operator} {first word : List Char} (within : level < limit)
    (hends : EndsIn (IsOperand limit level) first left rest)
    (hword : (Terminal.keyword (.operator op)).Matches word) (before : Nat) :
    Begins (IsQuery limit level) (first ++ (spaces before ++ word)) := by
  have hlink : (∀ text, IsOperand limit level
        (first ++ (spaces before ++ word ++ spaces 0 ++ text)) left
        (spaces before ++ word ++ spaces 0 ++ text)) →
      Begins (IsQuery limit level) (first ++ (spaces before ++ word)) := by
    intro hleft
    have hlink := link within hword hleft
    rwa [show spaces 0 = [] from rfl, List.append_nil] at hlink
  cases before with
  | zero =>
    rcases of_letters hends (Terminal.isAlphanum_of_matches hword) with hlonger | hany
    · exact hlonger.operand
    · exact hlink fun text => hany _
  | succ before =>
    refine hlink fun text => hends.of_endsWord ?_
    exact endsWord_cons rfl _

/-- Spaces may come after every operand. -/
theorem spaces_after {first : List Char} (within : level < limit)
    (hends : EndsIn (IsOperand limit level) first left rest) (count : Nat) :
    Begins (IsQuery limit level) (first ++ spaces count) := by
  have hand : (Terminal.keyword (.operator .and)).Matches "AND".toList := rfl
  have hoperator := operator within hends hand count
  rw [← List.append_assoc] at hoperator
  exact hoperator.of_append

end Begins

end TagQuery
