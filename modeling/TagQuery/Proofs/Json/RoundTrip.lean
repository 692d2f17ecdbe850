import TagQuery.Json.Structure
import TagQuery.Proofs.Json.Literal
import TagQuery.Proofs.Text.Reading

/-!
# JSON texts read back

* `Json.isWordChar_of_isNumber`: a number is one word, so it is read as a whole.
* `Json.Value.ReadsBack levels`: values that nest no deeper are read from their texts. Items and
  fields are (`ReadsBack.element`, `ReadsBack.field`), so arrays and objects on the next level are
  (`readValue?_array`, `readValue?_object`), and so by induction all values are (`readsBack`).
* `Json.parse?_render`: a whole text stands for the value that it was written from.
-/

namespace TagQuery.Json

variable {c : Char} {word rest : List Char} {levels : Nat}

/-! ## Words -/

/-- Where a number or a name ends. -/
def EndsJsonWord (rest : List Char) : Prop :=
  ∀ c ∈ rest.head?, ¬isWordChar c

/-! The parts of a number are made of the characters of a word. -/

theorem isWordChar_of_isDigits (h : isDigits word) : ∀ c ∈ word, isWordChar c := by
  simp [isDigits] at h
  intro c hc
  have hdigit := h.2 c hc
  simp [isWordChar, Char.isAlphanum, hdigit]

theorem isWordChar_of_isExponent (h : isExponent word) : ∀ c ∈ word, isWordChar c := by
  have hletter : ∀ {e : Char}, (e == 'e' || e == 'E') = true → isWordChar e := by
    intro e he
    rcases Bool.or_eq_true_iff.mp he with he | he <;> cases beq_iff_eq.mp he <;> decide
  have hsigns : isWordChar '+' ∧ isWordChar '-' := by decide
  unfold isExponent at h
  split at h
  · simp
  all_goals
    obtain ⟨he, hdigits⟩ := Bool.and_eq_true_iff.mp h
    have hchars := isWordChar_of_isDigits hdigits
    grind

/-- Digits and what comes after them. -/
theorem isWordChar_of_digits (hdigits : isDigits (word.takeWhile Char.isDigit))
    (hothers : ∀ c ∈ word.dropWhile Char.isDigit, isWordChar c) : ∀ c ∈ word, isWordChar c := by
  have hchars := isWordChar_of_isDigits hdigits
  rw [← List.takeWhile_append_dropWhile (p := Char.isDigit) (l := word)]
  intro c hc
  exact (List.mem_append.mp hc).elim (hchars c) (hothers c)

theorem isWordChar_of_isFraction (h : isFraction word) : ∀ c ∈ word, isWordChar c := by
  unfold isFraction at h
  split at h
  next rest =>
    obtain ⟨hdigits, hexponent⟩ := Bool.and_eq_true_iff.mp h
    have hpoint : isWordChar '.' := by decide
    have hrest := isWordChar_of_digits hdigits (isWordChar_of_isExponent hexponent)
    grind
  next => exact isWordChar_of_isExponent h

/-- A number is one word, whatever sign and exponent it has. -/
theorem isWordChar_of_isNumber (h : isNumber word) : ∀ c ∈ word, isWordChar c := by
  have hsign : isWordChar '-' := by decide
  have hzero : isWordChar '0' := by decide
  unfold isNumber at h
  simp only at h
  split at h
  next rest hrest =>
    have hchars := isWordChar_of_isFraction h
    split at hrest <;> grind
  next =>
    obtain ⟨hdigits, hfraction⟩ := Bool.and_eq_true_iff.mp h
    have hchars := isWordChar_of_digits hdigits (isWordChar_of_isFraction hfraction)
    split at hchars <;> grind

/-- A word is read as a whole if no more of it follows. -/
theorem readValue?_word {v : Value} (hword : word? word = some v)
    (hchars : ∀ c ∈ word, isWordChar c) (hrest : EndsJsonWord rest) :
    readValue? levels (word ++ rest) = some (v, rest) := by
  have htake := Text.takeWhile_run hchars hrest
  have hdrop := Text.dropWhile_run hchars hrest
  cases word with
  | nil => cases hword
  | cons c word =>
    have hc := hchars c List.mem_cons_self
    rw [List.cons_append] at htake hdrop ⊢
    rw [readValue?]
    · simp [htake, hdrop, hword]
    · intro _ hcons
      cases hcons
      cases hc
    · intro _ _ hcons _
      cases hcons
      cases hc
    · intro _ _ hcons _
      cases hcons
      cases hc

/-- A number stands for itself. -/
theorem word?_number {written : String} (h : isNumber written.toList) :
    word? written.toList = some (.number written) := by
  have hname : ∀ name : String, isNumber name.toList = false → written.toList ≠ name.toList := by
    intro name hname heq
    rw [heq, hname] at h
    cases h
  have hnull := hname "null" (by decide)
  have htrue := hname "true" (by decide)
  have hfalse := hname "false" (by decide)
  simp only [word?, hnull, htrue, hfalse, h, if_false, if_true, String.ofList_toList]

/-- No value begins with a closing bracket. -/
theorem readValue?_closing (levels : Nat) (rest : List Char) :
    readValue? levels (']' :: rest) = none := by
  have htake : (']' :: rest).takeWhile isWordChar = [] := List.takeWhile_cons_of_neg (by decide)
  rw [readValue?]
  · rw [htake]
    rfl
  · nofun
  · nofun
  · nofun

/-! ## Blanks and separators -/

theorem isBlank_of_isWordChar (h : isWordChar c) : isBlank c = false := by
  refine Bool.eq_false_iff.mpr fun hblank => ?_
  simp only [isBlank, Bool.or_eq_true, beq_iff_eq] at hblank
  rcases hblank with ((rfl | rfl) | rfl) | rfl <;> cases h

theorem skipBlanks_cons (hc : isBlank c = false) (rest : List Char) :
    skipBlanks (c :: rest) = c :: rest := by
  simp [skipBlanks, hc]

/-! ## Values -/

namespace Value

/-- No value begins with a blank. -/
theorem exists_cons_render {v : Value} (h : v.Numeric) :
    ∃ c tail, v.render.toList = c :: tail ∧ isBlank c = false := by
  cases v with
  | null => exact ⟨_, _, rfl, by decide⟩
  | bool b => cases b <;> exact ⟨_, _, rfl, by decide⟩
  | number written =>
    have hnumber : isNumber written.toList = true := h
    have hchars := isWordChar_of_isNumber hnumber
    show ∃ c tail, written.toList = c :: tail ∧ _
    cases hwritten : written.toList with
    | nil =>
      rw [hwritten] at hnumber
      cases hnumber
    | cons c tail =>
      refine ⟨c, tail, rfl, ?_⟩
      rw [hwritten] at hchars
      exact isBlank_of_isWordChar (hchars c List.mem_cons_self)
  | string text => exact ⟨'"', _, by simp [render, quote]; rfl, by decide⟩
  | array items => exact ⟨'[', _, by simp [render]; rfl, by decide⟩
  | object fields => exact ⟨'\x7b', _, by simp [render]; rfl, by decide⟩

theorem skipBlanks_render {v : Value} (h : v.Numeric) (rest : List Char) :
    skipBlanks (v.render.toList ++ rest) = v.render.toList ++ rest := by
  obtain ⟨c, tail, hrender, hc⟩ := exists_cons_render h
  rw [hrender, List.cons_append, skipBlanks_cons hc]

/-- Values of some depth are read from their texts within so many levels, if a text is not followed
by more of a word. -/
def ReadsBack (levels : Nat) : Prop :=
  ∀ (v : Value) (rest : List Char), v.Numeric → v.depth ≤ levels → EndsJsonWord rest →
    readValue? levels (v.render.toList ++ rest) = some (v, rest)

/-- The marks after an item or a field are neither blanks nor part of a word. -/
theorem isBlank_isWordChar_of_mark (h : c ∈ [',', ']', '\x7d']) :
    isBlank c = false ∧ isWordChar c = false := by
  simp only [List.mem_cons, List.not_mem_nil, or_false] at h
  rcases h with rfl | rfl | rfl <;> decide

theorem ReadsBack.of_mark (h : ReadsBack levels) {v : Value} (hnumeric : v.Numeric)
    (hdepth : v.depth ≤ levels) (hc : c ∈ [',', ']', '\x7d']) (rest : List Char) :
    readValue? levels (v.render.toList ++ c :: rest) = some (v, c :: rest) := by
  refine h v (c :: rest) hnumeric hdepth fun d hd => ?_
  cases hd
  simp [isBlank_isWordChar_of_mark hc]

/-- An item of an array is read up to the mark after it. -/
theorem ReadsBack.element (h : ReadsBack levels) {v : Value} (hnumeric : v.Numeric)
    (hdepth : v.depth ≤ levels) (hc : c ∈ [',', ']', '\x7d']) (rest : List Char) :
    readArray?.element (readValue? levels) (v.render.toList ++ c :: rest) =
      some (v, c :: rest) := by
  have hvalue := h.of_mark hnumeric hdepth hc rest
  simp [readArray?.element, skipBlanks_render hnumeric, hvalue,
    skipBlanks_cons (isBlank_isWordChar_of_mark hc).1]

/-- The text of a field. -/
def fieldText (field : String × Value) : List Char :=
  (quote field.1).toList ++ ':' :: field.2.render.toList

/-- A field of an object is read up to the mark after it. -/
theorem ReadsBack.field (h : ReadsBack levels) {field : String × Value} (hnumeric : field.2.Numeric)
    (hdepth : field.2.depth ≤ levels) (hc : c ∈ [',', ']', '\x7d']) (rest : List Char) :
    readObject?.field (readValue? levels) (fieldText field ++ c :: rest) =
      some (field, c :: rest) := by
  have hvalue := h.of_mark hnumeric hdepth hc rest
  have hkey : ∀ rest, skipBlanks ((quote field.1).toList ++ rest) =
      (quote field.1).toList ++ rest := skipBlanks_render (v := .string field.1) trivial
  have hcolon : isBlank ':' = false := by decide
  simp [readObject?.field, fieldText, hkey, readLiteral?_quote, skipBlanks_cons hcolon, skipChar?,
    skipBlanks_render hnumeric, hvalue, skipBlanks_cons (isBlank_isWordChar_of_mark hc).1]

/-! ## Arrays and objects -/

theorem toList_renderItems (items : List Value) :
    (renderItems items).toList = [','].intercalate (items.map (·.render.toList)) := by
  induction items with
  | nil => rfl
  | cons item items ih =>
    cases items with
    | nil => simp [renderItems]
    | cons other items =>
      rw [renderItems]
      · simp [ih, List.intercalate_cons_cons]
      · nofun

theorem toList_renderFields (fields : List (String × Value)) :
    (renderFields fields).toList = [','].intercalate (fields.map fieldText) := by
  induction fields with
  | nil => rfl
  | cons field fields ih =>
    cases fields with
    | nil => simp [renderFields, fieldText]
    | cons other fields =>
      rw [renderFields]
      · simp [ih, List.intercalate_cons_cons, fieldText]
      · nofun

theorem readValue?_array {levels : Nat} (hreads : ReadsBack levels) {items : List Value}
    (hnumeric : NumericItems items) (hdepth : depthOfItems items ≤ levels) (rest : List Char) :
    readValue? (levels + 1) ((array items).render.toList ++ rest) = some (array items, rest) := by
  have htext : (array items).render.toList ++ rest =
      '[' :: ((renderItems items).toList ++ ']' :: rest) := by
    simp [render]
  rw [htext]
  show readArray? (readValue? levels) _ = _
  unfold readArray?
  cases items with
  | nil =>
    have hclosing : isBlank ']' = false := by decide
    have hnone : readArray?.element (readValue? levels) (']' :: rest) = none := by
      simp [readArray?.element, skipBlanks_cons hclosing, readValue?_closing]
    simp [renderItems, Text.readSeparated?_none hnone, skipBlanks_cons hclosing, skipChar?]
  | cons item items =>
    have hitem : ∀ v ∈ item :: items, ∀ c ∈ [',', ']'], ∀ rest,
        readArray?.element (readValue? levels) (v.render.toList ++ c :: rest) =
          some (v, c :: rest) := by
      intro v hv c hc rest
      have hmark : c ∈ [',', ']', '\x7d'] := by grind
      have hvnumeric := numericItems_iff.mp hnumeric v hv
      exact hreads.element hvnumeric (depthOfItems_le_iff.mp hdepth v hv) hmark rest
    rw [toList_renderItems, Text.readSeparated?_intercalate (by decide) item items hitem]
    simp [skipChar?]

theorem readValue?_object {levels : Nat} (hreads : ReadsBack levels)
    {fields : List (String × Value)} (hnumeric : NumericFields fields)
    (hdepth : depthOfFields fields ≤ levels) (rest : List Char) :
    readValue? (levels + 1) ((object fields).render.toList ++ rest) =
      some (object fields, rest) := by
  have htext : (object fields).render.toList ++ rest =
      '\x7b' :: ((renderFields fields).toList ++ '\x7d' :: rest) := by
    simp [render]
  rw [htext]
  show readObject? (readValue? levels) _ = _
  unfold readObject?
  cases fields with
  | nil =>
    have hclosing : isBlank '\x7d' = false := by decide
    have hnone : readObject?.field (readValue? levels) ('\x7d' :: rest) = none := by
      simp [readObject?.field, skipBlanks_cons hclosing, readLiteral?]
    simp [renderFields, Text.readSeparated?_none hnone, skipBlanks_cons hclosing, skipChar?]
  | cons field fields =>
    have hfield : ∀ f ∈ field :: fields, ∀ c ∈ [',', '\x7d'], ∀ rest,
        readObject?.field (readValue? levels) (fieldText f ++ c :: rest) = some (f, c :: rest) := by
      intro f hf c hc rest
      have hmark : c ∈ [',', ']', '\x7d'] := by grind
      have hfnumeric := numericFields_iff.mp hnumeric f hf
      exact hreads.field hfnumeric (depthOfFields_le_iff.mp hdepth f hf) hmark rest
    rw [toList_renderFields, Text.readSeparated?_intercalate (by decide) field fields hfield]
    simp [skipChar?]

theorem readValue?_string (levels : Nat) (text : String) (rest : List Char) :
    readValue? levels ((quote text).toList ++ rest) = some (string text, rest) := by
  have hread := readLiteral?_quote text rest
  have hquote : (quote text).toList ++ rest =
      '"' :: (text.toList.flatMap escapeChar ++ '"' :: rest) := by
    simp [quote]
  rw [hquote] at hread ⊢
  simp [readValue?, hread]

/-- Every value is read from its text. -/
theorem readsBack (levels : Nat) : ReadsBack levels := by
  -- On the levels and not on the value, like the reader: the items of an array are read on the
  -- level below, whatever they are.
  induction levels using Nat.strongRecOn with
  | ind levels ih =>
    intro v rest hnumeric hdepth hrest
    cases v with
    | null => exact readValue?_word rfl (List.all_eq_true.mp rfl) hrest
    | bool b => cases b <;> exact readValue?_word rfl (List.all_eq_true.mp rfl) hrest
    | number written =>
      exact readValue?_word (word?_number hnumeric) (isWordChar_of_isNumber hnumeric) hrest
    | string text => exact readValue?_string levels text rest
    | array items =>
      cases levels with
      | zero => exact absurd hdepth (Nat.not_succ_le_zero _)
      | succ below =>
        have hbelow := ih below (Nat.lt_succ_self below)
        exact readValue?_array hbelow hnumeric (Nat.le_of_succ_le_succ hdepth) rest
    | object fields =>
      cases levels with
      | zero => exact absurd hdepth (Nat.not_succ_le_zero _)
      | succ below =>
        have hbelow := ih below (Nat.lt_succ_self below)
        exact readValue?_object hbelow hnumeric (Nat.le_of_succ_le_succ hdepth) rest

/-! ## Whole texts -/

mutual

/-- No value nests deeper than its text is long. -/
theorem depth_le_length : ∀ v : Value, v.depth ≤ v.render.length
  | null | bool _ | number _ | string _ => Nat.zero_le _
  | array items => by
    have hitems := depthOfItems_le_length items
    have hbracket : "[".length = 1 := rfl
    simp [depth, render]
    omega
  | object fields => by
    have hfields := depthOfFields_le_length fields
    have hbrace : "\x7b".length = 1 := rfl
    simp [depth, render]
    omega

theorem depthOfItems_le_length :
    ∀ items : List Value, depthOfItems items ≤ (renderItems items).length
  | [] => Nat.zero_le _
  | [item] => by
    have hitem := depth_le_length item
    simpa [depthOfItems, renderItems] using hitem
  | item :: other :: items => by
    have hitem := depth_le_length item
    have hitems := depthOfItems_le_length (other :: items)
    rw [depthOfItems, renderItems]
    · simp
      omega
    · nofun

theorem depthOfFields_le_length :
    ∀ fields : List (String × Value), depthOfFields fields ≤ (renderFields fields).length
  | [] => Nat.zero_le _
  | [(key, v)] => by
    have hv := depth_le_length v
    simp [depthOfFields, renderFields]
    omega
  | (key, v) :: other :: fields => by
    have hv := depth_le_length v
    have hfields := depthOfFields_le_length (other :: fields)
    rw [depthOfFields, renderFields]
    · simp
      omega
    · nofun

end

end Value

/-- **JSON texts read back.** The text that a value is written as is one JSON value, and this is the
value. -/
theorem parse?_render {v : Value} (h : v.Numeric) : parse? v.render = some v := by
  have hread := Value.readsBack v.render.length v [] h v.depth_le_length nofun
  have hblanks := Value.skipBlanks_render h []
  have hend : skipBlanks [] = [] := rfl
  rw [List.append_nil] at hread hblanks
  simp [parse?, hblanks, hread, hend]

end TagQuery.Json
