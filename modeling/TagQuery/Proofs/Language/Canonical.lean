import TagQuery.Expr.Nesting
import TagQuery.Expr.Printer
import TagQuery.Language.Derivation

/-!
# Which expressions have spellings

* `IsQuery.isWellFormed_of_mem_leaves`, `IsQuery.nesting_le`: an expression with a spelling has
  well-formed tags only, and its canonical text nests no deeper than that spelling. A spelling may
  have more parentheses than the canonical text, never fewer where they count.
* `isQuery_text`: the canonical text of an expression with well-formed tags is a spelling of it on
  every level from which its nesting stays within the limit.
-/

namespace TagQuery

variable {limit level : Nat} {text rest : List Char} {e : Expr}

/-! ## Spellings of well-formed tags only -/

private theorem not_isAlphanum_quotationMark {c : Char} (h : c.isAlphanum) :
    CharClass.unquoted.contains c := by
  refine bne_iff_ne.mpr fun hc => ?_
  rw [hc] at h
  exact absurd h (by decide)

/-- A spelled value is not empty and holds no quotation mark. -/
theorem IsValue.isWellFormed {value : String} (h : IsValue text value rest) :
    (!value.isEmpty && value.toList.all CharClass.unquoted.contains) = true := by
  cases h with
  | bare hne hletters =>
    simp only [String.toList_ofList, Bool.and_eq_true, List.all_eq_true]
    exact ⟨by simpa using hne, fun c hc => not_isAlphanum_quotationMark (hletters c hc)⟩
  | quoted hne hunquoted =>
    simp only [String.toList_ofList, Bool.and_eq_true, List.all_eq_true]
    exact ⟨by simpa using hne, fun c hc => bne_iff_ne.mpr fun he => hunquoted (he ▸ hc)⟩

theorem IsTag.isWellFormed {t : Tag} (h : IsTag text t rest) : t.isWellFormed := by
  cases h with
  | semantic h => exact h.isWellFormed
  | synonyms h => exact h.isWellFormed
  | keyword h => exact h.isWellFormed
  | comment h => exact h.isWellFormed
  | regex hne hclass =>
    simp only [Tag.isWellFormed, String.toList_ofList, Bool.and_eq_true, List.all_eq_true]
    exact ⟨by simpa using hne, hclass⟩

mutual

theorem IsOperand.isWellFormed_of_mem_leaves {limit level : Nat} {text rest : List Char}
    {e : Expr} : IsOperand limit level text e rest → ∀ t ∈ e.leaves, t.isWellFormed
  | .tag _ htag => by
    intro t ht
    rw [List.mem_singleton.mp ht]
    exact htag.isWellFormed
  | .group _ hquery => IsQuery.isWellFormed_of_mem_leaves hquery

theorem IsQuery.isWellFormed_of_mem_leaves {limit level : Nat} {text rest : List Char}
    {e : Expr} : IsQuery limit level text e rest → ∀ t ∈ e.leaves, t.isWellFormed
  | .operand h => IsOperand.isWellFormed_of_mem_leaves h
  | .negation _ h => fun t ht => IsOperand.isWellFormed_of_mem_leaves h t ht
  | .binary hleft _ hright => by
    intro t ht
    rcases List.mem_append.mp ht with ht | ht
    · exact IsOperand.isWellFormed_of_mem_leaves hleft t ht
    · exact IsQuery.isWellFormed_of_mem_leaves hright t ht

end

/-! ## Spellings within the limit -/

theorem Expr.operandNesting_le (e : Expr) (inner : Nat) : operandNesting e inner ≤ inner + 1 := by
  cases e <;> simp [operandNesting]

theorem Expr.nesting_le_operandNesting (e : Expr) : e.nesting ≤ operandNesting e e.nesting := by
  cases e <;> simp [operandNesting, nesting]

mutual

theorem IsOperand.nesting_le {limit level : Nat} {text rest : List Char} {e : Expr} :
    IsOperand limit level text e rest → level + Expr.operandNesting e e.nesting ≤ limit
  | .tag within _ => within
  | .group _ hquery => by
    have hinner := IsQuery.nesting_le hquery
    have hgroup := Expr.operandNesting_le e e.nesting
    omega

theorem IsQuery.nesting_le {limit level : Nat} {text rest : List Char} {e : Expr} :
    IsQuery limit level text e rest → level + e.nesting ≤ limit
  | .operand h => by
    have hoperand := IsOperand.nesting_le h
    have hle := Expr.nesting_le_operandNesting e
    omega
  | .negation _ h => by
    have hoperand := IsOperand.nesting_le h
    simp only [Expr.nesting]
    omega
  | .binary hleft _ hright => by
    have hl := IsOperand.nesting_le hleft
    have hr := IsQuery.nesting_le hright
    simp only [Expr.nesting]
    omega

end

/-! ## The canonical spelling -/

/-- Where a bare value ends: no letter or digit follows. -/
def EndsWord (rest : List Char) : Prop :=
  ∀ c ∈ rest.head?, ¬c.isAlphanum

theorem isValue_valueText {value : String} (hne : value.isEmpty = false)
    (hunquoted : ∀ c ∈ value.toList, CharClass.unquoted.contains c) (hrest : EndsWord rest) :
    IsValue ((Tag.valueText value).toList ++ rest) value rest := by
  have hlist : value.toList ≠ [] := by simpa using hne
  unfold Tag.valueText
  split
  · rename_i hword
    simp only [Tag.isWord, Bool.and_eq_true, List.all_eq_true] at hword
    have hbare : IsValue (value.toList ++ rest) (String.ofList value.toList) rest :=
      .bare hlist hword.2 hrest
    rwa [String.ofList_toList] at hbare
  · have hquoted : IsValue ('"' :: value.toList ++ '"' :: rest) (String.ofList value.toList) rest :=
      .quoted hlist fun hmem => absurd (hunquoted _ hmem) (by decide)
    rw [String.ofList_toList] at hquoted
    simpa using hquoted

/-- The canonical text of a well-formed tag is a spelling of it. -/
theorem isTag_text {t : Tag} (h : t.isWellFormed) (hrest : EndsWord rest) :
    IsTag (t.text.toList ++ rest) t rest := by
  have hsuffix : EndsWord ('+' :: 's' :: rest) := fun c hc => by
    cases hc
    decide
  cases t with
  | semantic value synonyms =>
    simp only [Tag.isWellFormed, Bool.and_eq_true, Bool.not_eq_true', List.all_eq_true] at h
    cases synonyms with
    | false =>
      have hvalue := isValue_valueText h.1 h.2 hrest
      simpa [Tag.text] using IsTag.semantic hvalue
    | true =>
      have hvalue := isValue_valueText h.1 h.2 hsuffix
      simpa [Tag.text] using IsTag.synonyms hvalue
  | keyword value =>
    simp only [Tag.isWellFormed, Bool.and_eq_true, Bool.not_eq_true', List.all_eq_true] at h
    simpa [Tag.text] using IsTag.keyword (isValue_valueText h.1 h.2 hrest)
  | comment value =>
    simp only [Tag.isWellFormed, Bool.and_eq_true, Bool.not_eq_true', List.all_eq_true] at h
    simpa [Tag.text] using IsTag.comment (isValue_valueText h.1 h.2 hrest)
  | regex value =>
    simp only [Tag.isWellFormed, Bool.and_eq_true, Bool.not_eq_true', List.all_eq_true] at h
    have htag : IsTag ('r' :: ':' :: '/' :: value.toList ++ '/' :: rest)
        (.regex (String.ofList value.toList)) rest := .regex (by simpa using h.1) h.2
    rw [String.ofList_toList] at htag
    simpa [Tag.text] using htag

theorem matches_keyword_text (k : Keyword) : (Terminal.keyword k).Matches k.text.toList := by
  rcases k with op | _
  · cases op <;> rfl
  · rfl

/-- The canonical text of an operand is a spelling of it, if its canonical text as a query is one on
the level below. -/
theorem isOperand_atomic (hleaves : ∀ t ∈ e.leaves, t.isWellFormed)
    (hnesting : level + Expr.operandNesting e e.nesting ≤ limit) (hrest : EndsWord rest)
    (hquery : level + 1 + e.nesting ≤ limit →
      IsQuery limit (level + 1) (e.text.toList ++ ')' :: rest) e (')' :: rest)) :
    IsOperand limit level ((Expr.text.atomic e e.text).toList ++ rest) e rest := by
  have within : level ≤ limit := Nat.le_trans (Nat.le_add_right _ _) hnesting
  cases e with
  | tag t => exact .tag within (isTag_text (hleaves t List.mem_cons_self) hrest)
  | negation operand =>
    simp only [Expr.operandNesting] at hnesting
    simpa [Expr.text.atomic] using IsOperand.group within (hquery (by omega))
  | binary op left right =>
    simp only [Expr.operandNesting] at hnesting
    simpa [Expr.text.atomic] using IsOperand.group within (hquery (by omega))

/-- The canonical text of an expression with well-formed tags is a spelling of it, on every level
from which its nesting stays within the limit. -/
theorem isQuery_text (hleaves : ∀ t ∈ e.leaves, t.isWellFormed)
    (hnesting : level + e.nesting ≤ limit) (hrest : EndsWord rest) :
    IsQuery limit level (e.text.toList ++ rest) e rest := by
  have hclose : ∀ rest, EndsWord (')' :: rest) := fun rest c hc => by
    cases hc
    decide
  induction e generalizing level rest with
  | tag t =>
    exact .operand (.tag hnesting (isTag_text (hleaves t List.mem_cons_self) hrest))
  | negation operand ih =>
    simp only [Expr.nesting] at hnesting
    have hoperand : IsOperand limit (level + 1)
        ((Expr.text.atomic operand operand.text).toList ++ rest) operand rest :=
      isOperand_atomic hleaves (by omega) hrest fun h => ih hleaves h (hclose rest)
    have h : IsQuery limit level (spaces 0 ++ Keyword.not.text.toList ++ spaces 1 ++ _)
        (.negation operand) rest := .negation (matches_keyword_text .not) hoperand
    simpa [Expr.text, spaces, Keyword.text] using h
  | binary op left right ihl ihr =>
    simp only [Expr.nesting] at hnesting
    simp only [Expr.leaves, List.mem_append] at hleaves
    have hleft := fun t ht => hleaves t (.inl ht)
    have hright : IsQuery limit (level + 1) (right.text.toList ++ rest) right rest :=
      ihr (fun t ht => hleaves t (.inr ht)) (by omega) hrest
    have hjoint : EndsWord
        (spaces 1 ++ op.text.toList ++ spaces 1 ++ (right.text.toList ++ rest)) := fun c hc => by
      cases hc
      decide
    have hoperand : IsOperand limit level ((Expr.text.atomic left left.text).toList ++ _) left _ :=
      isOperand_atomic hleft (by omega) hjoint fun h => ihl hleft h (hclose _)
    have h := IsQuery.binary hoperand (matches_keyword_text (.operator op)) hright
    simpa [Expr.text, spaces] using h

end TagQuery
