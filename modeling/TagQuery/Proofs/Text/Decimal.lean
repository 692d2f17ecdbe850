import TagQuery.Config.Setting
import TagQuery.Proofs.Text.Reading
import TagQuery.Text.Decimal

/-!
# Trimming and decimal numbers

* `Text.exists_eq_trim`, `Text.trim_eq`: trimming takes off white space at both ends and nothing
  else, and no white space is left there.
* `Text.Decimal.readUnsigned_of_isNumeral`: a numeral is read as its number, however many digits it
  has, or it is too large for the bound. `Text.Decimal.exists_isNumeral_of_readUnsigned`: nothing else
  is read.
-/

namespace TagQuery.Text

/-! ## Trimming -/

/-- What is taken off at the two ends is white space. -/
theorem exists_eq_trim (text : List Char) :
    ∃ before after, text = before ++ trim text ++ after ∧ (∀ c ∈ before, isBlank c) ∧
      ∀ c ∈ after, isBlank c := by
  have hall : ∀ cs : List Char, ∀ c ∈ cs.takeWhile isBlank, isBlank c :=
    fun cs => List.all_eq_true.mp List.all_takeWhile
  refine ⟨text.takeWhile isBlank, ((text.dropWhile isBlank).reverse.takeWhile isBlank).reverse,
    ?_, hall text, fun c hc => hall _ c (List.mem_reverse.mp hc)⟩
  rw [trim, List.append_assoc, ← List.reverse_append, List.takeWhile_append_dropWhile,
    List.reverse_reverse, List.takeWhile_append_dropWhile]

/-- A text that begins and ends with something else is what is left of it amid white space. -/
theorem trim_eq {before core after : List Char} (hbefore : ∀ c ∈ before, isBlank c)
    (hafter : ∀ c ∈ after, isBlank c) (hne : core ≠ []) (hcore : ∀ c ∈ core, ¬isBlank c) :
    trim (before ++ core ++ after) = core := by
  have hfront : (before ++ (core ++ after)).dropWhile isBlank = core ++ after := by
    refine dropWhile_run hbefore fun c hc => ?_
    cases core with
    | nil => exact absurd rfl hne
    | cons d core =>
      cases hc
      exact hcore c List.mem_cons_self
  have hback : (after.reverse ++ core.reverse).dropWhile isBlank = core.reverse := by
    refine dropWhile_run (fun c hc => hafter c (List.mem_reverse.mp hc)) fun c hc => hcore c ?_
    exact List.mem_reverse.mp (List.mem_of_mem_head? hc)
  rw [trim, List.append_assoc, hfront, List.reverse_append, hback, List.reverse_reverse]

end TagQuery.Text

namespace TagQuery.Text.Decimal

open Config (IsNumeral)

variable {bound acc n : Nat} {digits text : List Char}

/-! ## Digits -/

theorem digitValue?_of_isDigit {c : Char} (h : c.isDigit) :
    digitValue? c = some (c.toNat - '0'.toNat) := by
  rw [digitValue?, if_pos h]

theorem le_ofDigitChars (digits : List Char) (acc : Nat) : acc ≤ Nat.ofDigitChars 10 digits acc := by
  rw [Nat.ofDigitChars_eq_ofDigitChars_zero]
  have hpow : 0 < 10 ^ digits.length := Nat.pow_pos (by decide)
  have hle : acc ≤ 10 ^ digits.length * acc := Nat.le_mul_of_pos_left acc hpow
  omega

/-- Digits are read as the number that they make up. Once a part of them reaches the bound the number
does too, so none is cut short. -/
theorem readDigits_of_isDigit (h : ∀ c ∈ digits, c.isDigit) (hacc : acc < bound) :
    readDigits bound digits acc =
      if Nat.ofDigitChars 10 digits acc < bound then .ok (Nat.ofDigitChars 10 digits acc)
      else .error .tooLarge := by
  induction digits generalizing acc with
  | nil => rw [readDigits, Nat.ofDigitChars_nil, if_pos hacc]
  | cons c digits ih =>
    obtain ⟨hc, hdigits⟩ := List.forall_mem_cons.mp h
    rw [readDigits, digitValue?_of_isDigit hc, Nat.ofDigitChars_cons]
    dsimp only
    split
    next hlt => exact ih hdigits hlt
    next hge =>
      have hle := le_ofDigitChars digits (10 * acc + (c.toNat - '0'.toNat))
      rw [if_neg (by omega)]

/-- Nothing but digits is read as a number. -/
theorem isDigit_of_readDigits (h : readDigits bound digits acc = .ok n) :
    ∀ c ∈ digits, c.isDigit := by
  induction digits generalizing acc with
  | nil => exact nofun
  | cons c digits ih =>
    rw [readDigits] at h
    split at h
    next => cases h
    next d hd =>
      have hc : c.isDigit := (Option.ite_none_right_eq_some.mp hd).1
      split at h
      next => exact List.forall_mem_cons.mpr ⟨hc, ih h⟩
      next => cases h

/-! ## Numerals -/

theorem readUnsigned_plus (hne : digits ≠ []) :
    readUnsigned bound ('+' :: digits) = readDigits bound digits 0 := by
  cases digits with
  | nil => exact absurd rfl hne
  | cons c digits => rfl

theorem readUnsigned_of_head (hne : text ≠ []) (hplus : ∀ c ∈ text.head?, c ≠ '+') :
    readUnsigned bound text = readDigits bound text 0 := by
  cases text with
  | nil => exact absurd rfl hne
  | cons c text =>
    have hc : c ≠ '+' := hplus c rfl
    rw [readUnsigned]
    · exact fun hnil => absurd hnil hne
    · exact fun hcons => absurd (List.cons.inj hcons).1 hc
    · exact fun _ hcons => absurd (List.cons.inj hcons).1 hc

/-- A numeral is read as its number if this lies below the bound. -/
theorem readUnsigned_of_isNumeral (h : IsNumeral text n) (hbound : 0 < bound) :
    readUnsigned bound text = if n < bound then .ok n else .error .tooLarge := by
  cases h with
  | unsigned nonempty ascii =>
    have hplus : ∀ c ∈ text.head?, c ≠ '+' := by
      rintro c hc rfl
      exact absurd (ascii '+' (List.mem_of_mem_head? hc)) (by decide)
    rw [readUnsigned_of_head nonempty hplus, readDigits_of_isDigit ascii hbound]
  | plus nonempty ascii => rw [readUnsigned_plus nonempty, readDigits_of_isDigit ascii hbound]

/-- What is read as a number is a numeral. -/
theorem exists_isNumeral_of_readUnsigned (h : readUnsigned bound text = .ok n) :
    ∃ m, IsNumeral text m := by
  unfold readUnsigned at h
  split at h
  next => cases h
  next => cases h
  next digits hne =>
    have hdigits : digits ≠ [] := by
      rintro rfl
      exact hne rfl
    exact ⟨_, .plus hdigits (isDigit_of_readDigits h)⟩
  next hne _ _ => exact ⟨_, .unsigned hne (isDigit_of_readDigits h)⟩

/-- No white space is part of a numeral. -/
theorem not_isBlank_of_isNumeral (h : IsNumeral text n) : text ≠ [] ∧ ∀ c ∈ text, ¬isBlank c := by
  have hdigit : ∀ c : Char, c.isDigit → ¬isBlank c := by
    intro c hc
    have hrange : 48 ≤ c.toNat ∧ c.toNat ≤ 57 := Char.isDigit_iff_toNat.mp hc
    simp only [isBlank, whiteSpace, CharSet.contains, List.any_cons, List.any_nil, Bool.or_eq_true,
      Bool.and_eq_true, decide_eq_true_eq, Bool.false_eq_true, or_false]
    omega
  cases h with
  | unsigned nonempty ascii => exact ⟨nonempty, fun c hc => hdigit c (ascii c hc)⟩
  | plus nonempty ascii =>
    have hplus : ¬isBlank '+' := by decide
    exact ⟨List.cons_ne_nil _ _,
      List.forall_mem_cons.mpr ⟨hplus, fun c hc => hdigit c (ascii c hc)⟩⟩

end TagQuery.Text.Decimal
