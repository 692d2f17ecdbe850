import TagQuery.Proofs.Language.RoundTrip

/-!
# How large an expression and its text can be

* `IsTag.count_text`: a tag has as many parentheses in its canonical text as in any spelling, since
  they are all part of its value.
* `IsOperand.count_le`, `IsQuery.count_le`: a spelling has the parentheses that the canonical text
  has, perhaps among others.
* `Expr.height_le_nesting`: an expression is no higher than its canonical text nests deep.

So of all texts that are read as an expression none has fewer opening parentheses than the canonical
one, and the expression is no higher than the limit that they are read under.
-/

namespace TagQuery

variable {limit level : Nat} {text rest : List Char} {e : Expr}

/-! ## Parentheses -/

theorem count_valueText (value : String) :
    (Tag.valueText value).toList.count '(' = value.toList.count '(' := by
  unfold Tag.valueText
  split
  · rfl
  · simp

theorem IsValue.count_eq {value : String} (h : IsValue text value rest) :
    value.toList.count '(' + rest.count '(' = text.count '(' := by
  cases h with
  | bare => simp
  | quoted => simp

/-- The parentheses of a spelled tag are those of its canonical text. -/
theorem IsTag.count_text {t : Tag} (h : IsTag text t rest) :
    t.text.toList.count '(' + rest.count '(' = text.count '(' := by
  cases h with
  | semantic hvalue => simp [Tag.text, count_valueText, ← hvalue.count_eq]
  | synonyms hvalue => simp [Tag.text, count_valueText, ← hvalue.count_eq]
  | keyword hvalue => simp [Tag.text, count_valueText, ← hvalue.count_eq]
  | comment hvalue => simp [Tag.text, count_valueText, ← hvalue.count_eq]
  | regex => simp [Tag.text]

namespace Expr

theorem count_text_le_atomic (e : Expr) :
    e.text.toList.count '(' ≤ (Expr.text.atomic e e.text).toList.count '(' := by
  cases e <;> simp [Expr.text.atomic]

theorem count_atomic_le (e : Expr) :
    (Expr.text.atomic e e.text).toList.count '(' ≤ e.text.toList.count '(' + 1 := by
  cases e <;> simp [Expr.text.atomic]

theorem count_negation (operand : Expr) : (negation operand).text.toList.count '(' =
    (Expr.text.atomic operand operand.text).toList.count '(' := by
  simp [Expr.text]

theorem count_binary (op : Operator) (left right : Expr) :
    (binary op left right).text.toList.count '(' =
      (Expr.text.atomic left left.text).toList.count '(' + right.text.toList.count '(' := by
  cases op <;> simp [Expr.text, Operator.text]

end Expr

mutual

theorem IsOperand.count_le {limit level : Nat} {text rest : List Char} {e : Expr} :
    IsOperand limit level text e rest →
      (Expr.text.atomic e e.text).toList.count '(' + rest.count '(' ≤ text.count '('
  | .tag _ htag => Nat.le_of_eq htag.count_text
  | .group _ hquery => by
    have hinner := hquery.count_le
    have hatomic := e.count_atomic_le
    rw [List.count_cons_of_ne (by decide)] at hinner
    rw [List.count_cons_self]
    omega

/-- A spelling of a query has no fewer parentheses than its canonical text. -/
theorem IsQuery.count_le {limit level : Nat} {text rest : List Char} {e : Expr} :
    IsQuery limit level text e rest →
      e.text.toList.count '(' + rest.count '(' ≤ text.count '('
  | .operand hoperand => by
    have hinner := hoperand.count_le
    have hatomic := e.count_text_le_atomic
    omega
  | .negation _ hoperand => by
    have hinner := hoperand.count_le
    rw [Expr.count_negation]
    simp only [List.count_append]
    omega
  | .binary hleft _ hright => by
    have hfirst := hleft.count_le
    have hlink := hright.count_le
    rw [Expr.count_binary]
    simp only [List.count_append] at hfirst
    omega

end

/-! ## Height -/

namespace Expr

/-- An operand is no higher than the levels between the group around it and its own lowest one. -/
theorem height_le_operandNesting {inner : Nat} (e : Expr) (h : e.height ≤ inner) :
    e.height ≤ e.operandNesting inner - 1 := by
  cases e with
  | tag t => exact Nat.zero_le _
  | negation operand => exact h
  | binary op left right => exact h

theorem height_le_nesting (e : Expr) : e.height ≤ e.nesting := by
  induction e with
  | tag t => exact Nat.le_refl _
  | negation operand ih =>
    have hoperand := operand.height_le_operandNesting ih
    simp only [height, nesting]
    omega
  | binary op left right ihl ihr =>
    -- A left operand that is a tag adds no level, but then the right side begins one level below.
    have hleft := left.height_le_operandNesting ihl
    simp only [height, nesting]
    omega

end Expr

/-! ## What was read -/

namespace Grammar

variable {g : Grammar} {text : String}

/-- **Canonical text is minimal in parentheses.** Every text that is read as an expression has at
least as many opening parentheses as the canonical text, which is one of these texts. -/
theorem count_text_le_of_parse (h : g.parse text = .ok e) : g.parse e.text = .ok e ∧
    e.text.toList.count '(' ≤ text.toList.count '(' := by
  have hcount := (isQuery_of_parse h).count_le
  exact ⟨parse_text_of_nesting_le (isWellFormed_of_parse h) (nesting_le_of_parse h),
    Nat.le_trans (Nat.le_add_right _ _) hcount⟩

/-- Four of the six parentheses are around a tag or on the right of an operator. The other two are
around the left side and in a value. -/
theorem count_text_le_of_parse_groups :
    (Grammar.mk 5).parse "((k:a)OR(k:b)) AND (NOT (c:\"(\"))" = .ok (.binary .and
        (.binary .or (.tag (.keyword "a")) (.tag (.keyword "b")))
        (.negation (.tag (.comment "(")))) ∧
      (Grammar.mk 5).parse "(k:a OR k:b) AND NOT c:\"(\"" = .ok (.binary .and
        (.binary .or (.tag (.keyword "a")) (.tag (.keyword "b")))
        (.negation (.tag (.comment "(")))) ∧
      "(k:a OR k:b) AND NOT c:\"(\"".toList.count '(' ≤
        "((k:a)OR(k:b)) AND (NOT (c:\"(\"))".toList.count '(' := by
  have h : (Grammar.mk 5).parse "((k:a)OR(k:b)) AND (NOT (c:\"(\"))" = .ok (.binary .and
      (.binary .or (.tag (.keyword "a")) (.tag (.keyword "b")))
      (.negation (.tag (.comment "(")))) := rfl
  exact ⟨h, count_text_le_of_parse h⟩

/-- **The limit bounds the expression.** Whatever its levels come from, groups, negations or chains
of operators, an expression that is read is no higher than the limit. -/
theorem height_le_of_parse (h : g.parse text = .ok e) : e.height ≤ g.maxDepth :=
  Nat.le_trans e.height_le_nesting (nesting_le_of_parse h)

/-- A chain of two links whose last operand is a negation has height three, the limit. -/
theorem height_le_of_parse_chain :
    Expr.height (.binary .and (.tag (.keyword "a"))
      (.binary .or (.tag (.keyword "b")) (.negation (.tag (.keyword "c"))))) ≤ 3 := by
  have h : (Grammar.mk 3).parse "k:a AND k:b OR NOT k:c" = .ok (.binary .and (.tag (.keyword "a"))
      (.binary .or (.tag (.keyword "b")) (.negation (.tag (.keyword "c"))))) := rfl
  exact height_le_of_parse h

end Grammar

end TagQuery
