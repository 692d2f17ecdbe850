import TagQuery.Json.StringLiteral

/-!
# String literals read back

* `Json.readChar?_escapeChar`: a character is read from its escape, whatever follows.
* `Json.readLiteral?_quote`: every text, whatever characters it holds, is read from its literal, and
  what follows is left.
-/

namespace TagQuery.Json

/-! ## One character -/

/-- Two hexadecimal digits after `00` name a character of one byte. -/
theorem readCodePoint?_digits {n : Nat} (hn : n < 256) (rest : List Char) :
    readCodePoint? ('0' :: '0' :: Text.Hex.digit (n / 16) :: Text.Hex.digit (n % 16) :: rest) =
      some (Char.ofNat n, rest) := by
  have hzero : Text.Hex.value? '0' = some 0 := by decide
  have hhigh := Text.Hex.value?_digit (n / 16) (by omega)
  have hlow := Text.Hex.value?_digit (n % 16) (by omega)
  have hsum : 16 * (n / 16) + n % 16 = n := Nat.div_add_mod n 16
  have hplane : n < 0xD800 := by omega
  simp [readCodePoint?, readUnit?, Text.Hex.read?, hzero, hhigh, hlow, hsum, hplane]

/-- A character is read from its escape, or from itself if it has none. -/
theorem readChar?_escapeChar (c : Char) (rest : List Char) :
    readChar? (escapeChar c ++ rest) = some (c, rest) := by
  unfold escapeChar
  split
  case h_8 _ hback _ _ _ _ _ =>
    split
    next hcontrol =>
      show readCodePoint? ('0' :: '0' :: _ :: _ :: rest) = _
      rw [readCodePoint?_digits (by omega), Char.ofNat_toNat]
    next hplain =>
      have hslash : c ≠ '\\' := hback
      show readChar? (c :: rest) = _
      rw [readChar?]
      · simp [hslash, hplain]
      · exact fun _ heq _ => hslash heq
      · exact fun _ _ heq _ => hslash heq
  all_goals rfl

/-- No escape begins with a quotation mark, not even that of the quotation mark. -/
theorem head_escapeChar (c : Char) : ∃ d tail, escapeChar c = d :: tail ∧ d ≠ '"' := by
  unfold escapeChar
  split
  case h_8 hmark _ _ _ _ _ _ =>
    split
    · exact ⟨_, _, rfl, by decide⟩
    · exact ⟨_, _, rfl, hmark⟩
  all_goals exact ⟨_, _, rfl, by decide⟩

/-! ## Whole literals -/

theorem readBody?_escapeChar (c : Char) (text : List Char) :
    readBody? (escapeChar c ++ text) =
      (readBody? text).map fun (body, rest) => (c :: body, rest) := by
  have hread := readChar?_escapeChar c text
  obtain ⟨d, tail, hescape, hmark⟩ := head_escapeChar c
  rw [hescape, List.cons_append] at hread ⊢
  rw [readBody?]
  · split
    next hnone =>
      rw [hread] at hnone
      cases hnone
    next hsome =>
      rw [hread] at hsome
      cases hsome
      rfl
  · intro rest hcons
    exact hmark (List.cons.inj hcons).1

theorem readBody?_escaped (text rest : List Char) :
    readBody? (text.flatMap escapeChar ++ '"' :: rest) = some (text, rest) := by
  induction text with
  | nil => simp [readBody?]
  | cons c text ih => simp [readBody?_escapeChar, ih]

/-- A text is read from its literal. -/
theorem readLiteral?_quote (text : String) (rest : List Char) :
    readLiteral? ((quote text).toList ++ rest) = some (text, rest) := by
  simp [quote, readLiteral?, readBody?_escaped]

end TagQuery.Json
