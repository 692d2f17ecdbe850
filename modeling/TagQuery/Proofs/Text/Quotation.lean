import TagQuery.Proofs.Text.Reading
import TagQuery.Text.Quotation
import TagQuery.Text.Quoted
import TagQuery.Text.Visible

/-!
# Quotations read back

Explanations and log entries escape characters in ways of their own. Either way is told apart from
what follows, and shows no control character.

* `Text.Hex.read?_digits`: a number is read from its hexadecimal digits.
* `Text.Escapes`: a way to write single characters from which they are read back.
* `Text.readQuotation?_quote`, `Text.readQuotation?_visible`: a text is read from its quotation, and
  what follows is left. So different texts have different quotations (`Text.quote_injective`,
  `Text.visible_cancel`).
* `Text.isPlain_quote`, `Text.isPlain_visible`: quotations hold no control characters.
-/

namespace TagQuery.Text

variable {c : Char} {n : Nat}

/-! ## Hexadecimal digits -/

namespace Hex

theorem mem_digits (h : c ∈ digits n) : ∃ m < 16, c = digit m := by
  induction n using digits.induct with
  | case1 n hlt =>
    rw [digits, if_pos hlt] at h
    exact ⟨n, hlt, List.mem_singleton.mp h⟩
  | case2 n hge ih =>
    rw [digits, if_neg hge] at h
    rcases List.mem_append.mp h with h | h
    · exact ih h
    · exact ⟨n % 16, Nat.mod_lt n (by decide), List.mem_singleton.mp h⟩

theorem read?_append (first second : List Char) (acc : Nat) :
    read? (first ++ second) acc = (read? first acc).bind (read? second ·) := by
  induction first generalizing acc with
  | nil => rfl
  | cons c first ih =>
    simp only [List.cons_append, read?, ih, Option.bind_assoc]

/-- A number is read from its digits. -/
theorem read?_digits (n : Nat) : read? (digits n) 0 = some n := by
  induction n using digits.induct with
  | case1 n hlt =>
    rw [digits, if_pos hlt]
    simp [read?, value?_digit n hlt]
  | case2 n hge ih =>
    have hlast := value?_digit (n % 16) (Nat.mod_lt n (by decide))
    have hsum : 16 * (n / 16) + n % 16 = n := Nat.div_add_mod n 16
    rw [digits, if_neg hge, read?_append, ih]
    simp [read?, hlast, hsum]

/-- Two digits are enough for a number of one byte. -/
theorem read?_upperDigits (h : n < 256) :
    read? [upperDigit (n / 16), upperDigit (n % 16)] 0 = some n := by
  have hhigh := value?_upperDigit (n / 16) (by omega)
  have hlow := value?_upperDigit (n % 16) (by omega)
  have hsum : 16 * (n / 16) + n % 16 = n := Nat.div_add_mod n 16
  simp [read?, hhigh, hlow, hsum]

end Hex

/-! ## One character -/

/-- Characters are read back from the way in which they are written, whatever follows. None of them
begins like the end of a quotation, and none is written with a control character. -/
structure Escapes (escape : Char → List Char) : Prop where
  reads : ∀ c rest, readQuotedChar? (escape c ++ rest) = some (c, rest)
  head_ne : ∀ c, (escape c).head? ≠ some '"'
  plain : ∀ c, ∀ d ∈ escape c, IsPlainChar d

theorem Escapes.exists_cons {escape : Char → List Char} (h : Escapes escape) (c : Char) :
    ∃ d tail, escape c = d :: tail ∧ d ≠ '"' := by
  have hread := h.reads c []
  have hhead := h.head_ne c
  cases hescape : escape c with
  | nil =>
    rw [hescape] at hread
    cases hread
  | cons d tail =>
    rw [hescape] at hhead
    exact ⟨d, tail, rfl, fun hd => hhead (congrArg some hd)⟩

theorem readQuotedChar?_of_ne (h : c ≠ '\\') (rest : List Char) :
    readQuotedChar? (c :: rest) = some (c, rest) := by
  rw [readQuotedChar?]
  exact h

theorem isControl_iff : isControl c ↔
    c.toNat ≤ 0x1F ∨ 0x7F ≤ c.toNat ∧ c.toNat ≤ 0x9F := by
  simp [isControl, CharSet.contains]

theorem lt_of_isControl (h : isControl c) : c.toNat < 256 := by
  have hrange := isControl_iff.mp h
  omega

/-- What the escapes single out are the control characters. -/
theorem isPlainChar_of_not_isControl (h : ¬isControl c) : IsPlainChar c := by
  rw [isControl_iff] at h
  unfold IsPlainChar
  omega

theorem isPlainChar_digit (h : n < 16) : IsPlainChar (Hex.digit n) := by
  have hall : ∀ n < 16, IsPlainChar (Hex.digit n) := by decide
  exact hall n h

theorem isPlainChar_upperDigit (h : n < 16) : IsPlainChar (Hex.upperDigit n) := by
  have hall : ∀ n < 16, IsPlainChar (Hex.upperDigit n) := by decide
  exact hall n h

/-- Explanations escape with two digits. -/
theorem escapes_quoteChar : Escapes quoteChar where
  reads c rest := by
    unfold quoteChar
    split
    case h_7 hslash _ _ _ _ _ =>
      split
      next hcontrol =>
        have hread := Hex.read?_upperDigits (lt_of_isControl hcontrol)
        simp only [List.cons_append, List.nil_append, readQuotedChar?, readEscape?, hread,
          Option.map_some, Char.ofNat_toNat]
      next => exact readQuotedChar?_of_ne hslash rest
    all_goals rfl
  head_ne c := by
    unfold quoteChar
    split
    case h_7 hmark _ _ _ _ =>
      split
      · exact nofun
      · exact fun hhead => hmark (Option.some.inj hhead)
    all_goals decide
  plain c := by
    unfold quoteChar
    split
    case h_7 =>
      split
      next hcontrol =>
        have hbyte := lt_of_isControl hcontrol
        have hhigh := isPlainChar_upperDigit (n := c.toNat / 16) (by omega)
        have hlow := isPlainChar_upperDigit (n := c.toNat % 16) (by omega)
        simp only [List.forall_mem_cons, hhigh, hlow, List.not_mem_nil, false_implies,
          implies_true, and_true]
        decide
      next hplain => exact List.forall_mem_singleton.mpr (isPlainChar_of_not_isControl hplain)
    all_goals
      simp only [List.forall_mem_cons, List.not_mem_nil, false_implies, implies_true, and_true]
      decide

/-- The digits in braces end at the closing brace. -/
theorem readEscape?_digits (n : Nat) (rest : List Char) :
    readEscape? ('u' :: '{' :: (Hex.digits n ++ '}' :: rest)) = some (Char.ofNat n, rest) := by
  have hdigits : ∀ c ∈ Hex.digits n, c != '}' := by
    intro c hc
    obtain ⟨m, hm, rfl⟩ := Hex.mem_digits hc
    have hbrace : ∀ m < 16, (Hex.digit m != '}') = true := by decide
    exact hbrace m hm
  have hends : ∀ c ∈ ('}' :: rest).head?, ¬(c != '}') = true := by
    rintro c hc
    cases hc
    decide
  simp only [readEscape?, dropWhile_run hdigits hends, takeWhile_run hdigits hends,
    Hex.read?_digits, Option.map_some]

/-- Log entries escape with as many digits as it takes. -/
theorem escapes_visibleChar : Escapes visibleChar where
  reads c rest := by
    unfold visibleChar
    split
    case h_7 hslash _ _ _ _ _ =>
      split
      next =>
        have hread := readEscape?_digits c.toNat rest
        simp only [List.cons_append, List.append_assoc, List.nil_append, readQuotedChar?, hread,
          Char.ofNat_toNat]
      next => exact readQuotedChar?_of_ne hslash rest
    all_goals rfl
  head_ne c := by
    unfold visibleChar
    split
    case h_7 hmark _ _ _ _ =>
      split
      · exact nofun
      · exact fun hhead => hmark (Option.some.inj hhead)
    all_goals decide
  plain c := by
    unfold visibleChar
    split
    case h_7 =>
      split
      next =>
        have hdigits : ∀ d ∈ Hex.digits c.toNat, IsPlainChar d := by
          intro d hd
          obtain ⟨m, hm, rfl⟩ := Hex.mem_digits hd
          exact isPlainChar_digit hm
        simp only [List.forall_mem_cons, List.forall_mem_append, List.not_mem_nil, false_implies,
          implies_true, and_true]
        exact ⟨by decide, by decide, by decide, hdigits, by decide⟩
      next hshown =>
        refine List.forall_mem_singleton.mpr (isPlainChar_of_not_isControl fun hcontrol => ?_)
        exact hshown (by simp [isHidden, hcontrol])
    all_goals
      simp only [List.forall_mem_cons, List.not_mem_nil, false_implies, implies_true, and_true]
      decide

/-! ## Whole quotations -/

section Quotations

variable {escape : Char → List Char}

theorem Escapes.readQuotedBody?_cons (h : Escapes escape) (c : Char) (text : List Char) :
    readQuotedBody? (escape c ++ text) =
      (readQuotedBody? text).map fun (body, rest) => (c :: body, rest) := by
  have hread := h.reads c text
  obtain ⟨d, tail, hescape, hmark⟩ := h.exists_cons c
  rw [hescape, List.cons_append] at hread ⊢
  have hlength : text.length < (d :: (tail ++ text)).length := by
    rw [List.length_cons, List.length_append]
    omega
  rw [readQuotedBody?]
  · rw [hread]
    exact dif_pos hlength
  · exact fun _ hcons => hmark (List.cons.inj hcons).1

theorem Escapes.readQuotedBody?_flatMap (h : Escapes escape) (text rest : List Char) :
    readQuotedBody? (text.flatMap escape ++ '"' :: rest) = some (text, rest) := by
  induction text with
  | nil => rw [List.flatMap_nil, List.nil_append, readQuotedBody?]
  | cons c text ih =>
    rw [List.flatMap_cons, List.append_assoc, h.readQuotedBody?_cons, ih, Option.map_some]

theorem Escapes.readQuotation?_flatMap (h : Escapes escape) (text : String) (rest : List Char) :
    readQuotation? ('"' :: (text.toList.flatMap escape ++ ['"']) ++ rest) = some (text, rest) := by
  simp [readQuotation?, h.readQuotedBody?_flatMap]

theorem Escapes.isPlain_flatMap (h : Escapes escape) (text : List Char) :
    IsPlain (String.ofList ('"' :: (text.flatMap escape ++ ['"']))) := by
  have hbody : ∀ d ∈ text.flatMap escape, IsPlainChar d := by
    intro d hd
    obtain ⟨c, -, hc⟩ := List.mem_flatMap.mp hd
    exact h.plain c d hc
  have hmark : IsPlainChar '"' := by decide
  rw [IsPlain, String.toList_ofList]
  simp only [List.forall_mem_cons, List.forall_mem_append, List.not_mem_nil, false_implies,
    implies_true, and_true]
  exact ⟨hmark, hbody, hmark⟩

end Quotations

theorem readQuotation?_quote (text : String) (rest : List Char) :
    readQuotation? ((quote text).toList ++ rest) = some (text, rest) := by
  rw [quote, String.toList_ofList]
  exact escapes_quoteChar.readQuotation?_flatMap text rest

theorem readQuotation?_visible (text : String) (rest : List Char) :
    readQuotation? ((visible text).toList ++ rest) = some (text, rest) := by
  rw [visible, String.toList_ofList]
  exact escapes_visibleChar.readQuotation?_flatMap text rest

/-- Where the quotations of two texts stand at the start of one text, they are one quotation. -/
theorem visible_cancel {first second : String} {rest rest' : List Char}
    (h : (visible first).toList ++ rest = (visible second).toList ++ rest') :
    first = second ∧ rest = rest' := by
  have hread := readQuotation?_visible first rest
  rw [h, readQuotation?_visible] at hread
  cases hread
  exact ⟨rfl, rfl⟩

/-- Different texts have different quotations. -/
theorem quote_injective : Function.Injective quote := by
  intro first second h
  have hread := readQuotation?_quote first []
  rw [h, readQuotation?_quote] at hread
  cases hread
  rfl

/-! ## Texts without control characters -/

theorem isPlain_append {first second : String} :
    IsPlain (first ++ second) ↔ IsPlain first ∧ IsPlain second := by
  simp only [IsPlain, String.toList_append, List.forall_mem_append]

/-- Digits are no control characters. -/
theorem isPlain_toString (n : Nat) : IsPlain (toString n) := by
  intro c hc
  have hdigits : (toString n).toList = Nat.toDigits 10 n := by simp
  rw [hdigits] at hc
  have hdigit : c.isDigit := Nat.isDigit_of_mem_toDigits (by decide) (by decide) hc
  have hrange : 48 ≤ c.toNat ∧ c.toNat ≤ 57 := Char.isDigit_iff_toNat.mp hdigit
  exact ⟨by omega, .inl (by omega)⟩

theorem isPlain_intercalate {separator : String} {texts : List String}
    (hseparator : IsPlain separator) (h : ∀ text ∈ texts, IsPlain text) :
    IsPlain (separator.intercalate texts) := by
  induction texts with
  | nil => rw [String.intercalate_nil]; decide
  | cons first texts ih =>
    obtain ⟨hfirst, htexts⟩ := List.forall_mem_cons.mp h
    cases texts with
    | nil => rwa [String.intercalate_singleton]
    | cons second texts =>
      rw [String.intercalate_cons_cons, isPlain_append, isPlain_append]
      exact ⟨⟨hfirst, hseparator⟩, ih htexts⟩

theorem isPlain_quote (text : String) : IsPlain (quote text) :=
  escapes_quoteChar.isPlain_flatMap text.toList

theorem isPlain_visible (text : String) : IsPlain (visible text) :=
  escapes_visibleChar.isPlain_flatMap text.toList

end TagQuery.Text
