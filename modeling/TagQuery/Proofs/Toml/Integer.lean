import TagQuery.Proofs.Text.Reading
import TagQuery.Toml.Document

/-!
# Decimal integers of TOML

* `Toml.readDecimal?_toDigits`: the decimal digits of a number stand for it, since they begin with a
  zero only if it is all of them.
* `Toml.isDateTime_of_isDigit`, `Toml.isFloat_of_isDigit`: digits alone are no other scalar.
* `Toml.readValue?_toDigits`: so the digits of a number that fits in 64 bits with a sign are read as
  this integer, if no more of a word follows.
-/

namespace TagQuery.Toml

variable {c : Char} {word rest : List Char} {n : Nat}

/-! ## Numbers -/

theorem digitValue?_of_isDigit (h : c.isDigit) : digitValue? 10 c = some (c.toNat - '0'.toNat) := by
  have hrange : ('0' ≤ c && c ≤ '9') = true := h
  have hle : c.toNat ≤ '9'.toNat := (Char.isDigit_iff_toNat.mp h).2
  have hlt : c.toNat - '0'.toNat < 10 := by
    have hnine : '9'.toNat = 57 := rfl
    have hzero : '0'.toNat = 48 := rfl
    omega
  simp only [digitValue?, Text.Hex.value?, hrange, if_true, Option.filter_some, hlt, decide_true]

theorem readRest?_of_isDigit (h : ∀ c ∈ word, c.isDigit) (acc : Nat) :
    readRest? 10 word acc = some (Nat.ofDigitChars 10 word acc) := by
  induction word generalizing acc with
  | nil => rfl
  | cons c word ih =>
    have hc := h c List.mem_cons_self
    rw [readRest?, digitValue?_of_isDigit hc, Nat.ofDigitChars_cons]
    · exact ih (fun d hd => h d (List.mem_cons_of_mem _ hd)) _
    · rintro _ _ rfl
      cases hc

/-- Digits are a number, whatever zeros they begin with. -/
theorem readNumber?_of_isDigit (hne : word ≠ []) (h : ∀ c ∈ word, c.isDigit) :
    readNumber? 10 word = some (Nat.ofDigitChars 10 word 0) := by
  cases word with
  | nil => exact absurd rfl hne
  | cons c word =>
    have hrest := readRest?_of_isDigit fun d hd => h d (List.mem_cons_of_mem _ hd)
    simp [readNumber?, digitValue?_of_isDigit (h c List.mem_cons_self), hrest,
      Nat.ofDigitChars_cons]

/-! ## The digits of a number -/

theorem isDigit_of_mem_toDigits : ∀ c ∈ Nat.toDigits 10 n, c.isDigit :=
  fun _ => Nat.isDigit_of_mem_toDigits (by decide) (by decide)

/-- No zero leads the digits of another number. -/
theorem head?_toDigits_ne (h : 0 < n) : (Nat.toDigits 10 n).head? ≠ some '0' := by
  induction n using Nat.strongRecOn with
  | ind n ih =>
    rw [Nat.toDigits_eq_if (by decide)]
    split
    next hlt =>
      have hdigit : ∀ d < 10, 0 < d → d.digitChar ≠ '0' := by decide
      exact fun hhead => hdigit n hlt h (Option.some.inj hhead)
    next hge =>
      have hsome : (Nat.toDigits 10 (n / 10)).head?.isSome :=
        List.isSome_head?.mpr Nat.toDigits_ne_nil
      rw [List.head?_append, Option.or_of_isSome hsome]
      exact ih (n / 10) (by omega) (by omega)

theorem readDecimal?_toDigits (n : Nat) : readDecimal? (Nat.toDigits 10 n) = some n := by
  have hnumber : readNumber? 10 (Nat.toDigits 10 n) = some n := by
    rw [readNumber?_of_isDigit Nat.toDigits_ne_nil isDigit_of_mem_toDigits,
      Nat.ofDigitChars_ten_toDigits]
  rw [readDecimal?]
  · exact hnumber
  · intro c tail htext
    cases n with
    | zero =>
      rw [Nat.toDigits_zero] at htext
      cases htext
    | succ n =>
      refine head?_toDigits_ne (Nat.succ_pos n) ?_
      rw [htext]
      rfl

theorem readInteger?_toDigits (h : n < Nat.pow 2 63) :
    readInteger? (Nat.toDigits 10 n) = some (Int.ofNat n) := by
  have hdigits := @isDigit_of_mem_toDigits n
  have hread := readDecimal?_toDigits n
  generalize Nat.toDigits 10 n = word at hdigits hread
  have hany : readAnyInteger? word = some (Int.ofNat n) := by
    rw [readAnyInteger?]
    · rw [hread]
      rfl
    all_goals
      rintro _ rfl
      simp at hdigits
  simp [readInteger?, hany, fitsInteger, h]

/-! ## Digits are no other scalar -/

/-- Digits are no word with anything else in it. -/
theorem ne_of_isDigit (h : ∀ c ∈ word, c.isDigit) {other : List Char}
    (hother : other.all Char.isDigit = false) : word ≠ other := by
  rintro rfl
  rw [List.all_eq_true.mpr h] at hother
  cases hother

theorem isDate_of_isDigit (h : ∀ c ∈ word, c.isDigit) : isDate word = false := by
  unfold isDate
  split
  · cases h '-' (by simp)
  · rfl

theorem isTime_of_isDigit {ending : List Char → Bool} (h : ∀ c ∈ word, c.isDigit) :
    isTime ending word = false := by
  unfold isTime
  split
  · cases h ':' (by simp)
  · rfl

theorem isDateTime_of_isDigit (h : ∀ c ∈ word, c.isDigit) : isDateTime word = false := by
  have hdate : isDate (word.take 10) = false :=
    isDate_of_isDigit fun c hc => h c (List.mem_of_mem_take hc)
  simp [isDateTime, isDate_of_isDigit h, isTime_of_isDigit h, hdate]

theorem splitSign_of_isDigit (h : ∀ c ∈ word, c.isDigit) : splitSign word = (false, word) := by
  unfold splitSign
  split
  · cases h '-' (by simp)
  · cases h '+' (by simp)
  · rfl

/-- A word without marks has nothing after them. -/
theorem splitAtMark_of_isDigit {isMark : Char → Bool} (hmark : ∀ c, c.isDigit → isMark c = false)
    (h : ∀ c ∈ word, c.isDigit) : splitAtMark isMark word = (word, none) := by
  have hword : ∀ c ∈ word, (!isMark c) = true := fun c hc => by rw [hmark c (h c hc)]; rfl
  have htake : (word ++ []).takeWhile (!isMark ·) = word := Text.takeWhile_run hword nofun
  have hdrop : (word ++ []).dropWhile (!isMark ·) = [] := Text.dropWhile_run hword nofun
  rw [List.append_nil] at htake hdrop
  rw [splitAtMark, htake, hdrop]
  rfl

theorem isFloat_of_isDigit (h : ∀ c ∈ word, c.isDigit) : isFloat word = false := by
  have hexponent : ∀ c : Char, c.isDigit → (c == 'e' || c == 'E') = false := by
    intro c hc
    refine Bool.eq_false_iff.mpr fun hmark => ?_
    rcases Bool.or_eq_true_iff.mp hmark with hmark | hmark <;>
    · rw [beq_iff_eq.mp hmark] at hc
      cases hc
  have hpoint : ∀ c : Char, c.isDigit → (c == '.') = false := by
    intro c hc
    refine Bool.eq_false_iff.mpr fun hmark => ?_
    rw [beq_iff_eq.mp hmark] at hc
    cases hc
  have hinf : word ≠ "inf".toList := ne_of_isDigit h (by decide)
  have hnan : word ≠ "nan".toList := ne_of_isDigit h (by decide)
  have hfloat : (FloatWord.ofWord word).isValid = false := by
    simp [FloatWord.ofWord, splitSign_of_isDigit h, splitAtMark_of_isDigit hexponent h,
      splitAtMark_of_isDigit hpoint h, FloatWord.isValid]
  simp only [isFloat, splitSign_of_isDigit h, hfloat, beq_false_of_ne hinf, beq_false_of_ne hnan,
    Bool.or_false]

/-! ## Integers -/

theorem scalar?_toDigits (h : n < Nat.pow 2 63) :
    scalar? (Nat.toDigits 10 n) = some (.integer (Int.ofNat n)) := by
  have hdigits := @isDigit_of_mem_toDigits n
  have htrue : Nat.toDigits 10 n ≠ "true".toList := ne_of_isDigit hdigits (by decide)
  have hfalse : Nat.toDigits 10 n ≠ "false".toList := ne_of_isDigit hdigits (by decide)
  simp only [scalar?, htrue, hfalse, if_false, isDateTime_of_isDigit hdigits,
    isFloat_of_isDigit hdigits, Bool.false_eq_true, readInteger?_toDigits h, Option.map_some]

/-- Where an unquoted scalar ends. -/
def EndsScalar (rest : List Char) : Prop :=
  ∀ c ∈ rest.head?, ¬isScalarChar c

theorem isScalarChar_of_isDigit (h : c.isDigit) : isScalarChar c := by
  simp [isScalarChar, Char.isAlphanum, h]

/-- The digits of a number are read as the number. -/
theorem readValue?_toDigits (levels : Nat) (h : n < Nat.pow 2 63) (hrest : EndsScalar rest) :
    readValue? levels (Nat.toDigits 10 n ++ rest) = some (.integer (Int.ofNat n), rest) := by
  have hdigits := @isDigit_of_mem_toDigits n
  have hscalar : ∀ c ∈ Nat.toDigits 10 n, isScalarChar c :=
    fun c hc => isScalarChar_of_isDigit (hdigits c hc)
  have hread : readScalar? (Nat.toDigits 10 n ++ rest) = some (.integer (Int.ofNat n), rest) := by
    simp [readScalar?, Text.takeWhile_run hscalar hrest, Text.dropWhile_run hscalar hrest,
      isDate_of_isDigit hdigits, scalar?_toDigits h]
  have hne := @Nat.toDigits_ne_nil n 10
  generalize Nat.toDigits 10 n = word at hdigits hread hne
  cases word with
  | nil => exact absurd rfl hne
  | cons c word =>
    have hc := hdigits c List.mem_cons_self
    have hmark : ∀ {mark tail}, mark.isDigit = false → c :: (word ++ rest) ≠ mark :: tail := by
      rintro mark _ hmark hcons
      rw [(List.cons.inj hcons).1, hmark] at hc
      cases hc
    rw [List.cons_append, readValue?]
    · exact hread
    · exact fun _ => hmark (by decide)
    · exact fun _ => hmark (by decide)
    · exact fun _ _ hcons _ => hmark (by decide) hcons
    · exact fun _ _ hcons _ => hmark (by decide) hcons

end TagQuery.Toml
