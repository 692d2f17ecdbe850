import TagQuery.ByteReader
import TagQuery.Proofs.Terminal

/-!
# Terminals in bytes

The symbols and keywords of the query language are ASCII, whose characters are single bytes below 128,
and no other character has such a byte in front. So the bytes of a text begin with those of a word
exactly if its characters begin with the word, also where the case of ASCII letters does not count.

* `Text.Bytewise f g`: the change `f` of bytes is the change `g` of characters, as far as ASCII goes.
* `Text.Bytewise.take_eq_iff`: words found in the bytes are the words found in the characters.
* `Terminal.sizeAt?_offset`: at the offset of a column a terminal is found in the bytes exactly if it
  is found in the characters, and takes up the same text.
-/

namespace TagQuery

namespace Text

variable {c : Char} {f : UInt8 → UInt8} {g : Char → Char} {word : List Char}

/-! ## Characters and their first bytes -/

theorem utf8EncodeChar_of_lt (h : c.toNat < 128) :
    String.utf8EncodeChar c = [UInt8.ofNat c.toNat] := by
  have hle : c.val.toNat ≤ 127 := Nat.le_of_lt_succ h
  simp only [String.utf8EncodeChar, if_pos hle]
  rfl

theorem exists_utf8EncodeChar_of_le (h : 128 ≤ c.toNat) :
    ∃ byte tail, String.utf8EncodeChar c = byte :: tail ∧ 128 ≤ byte.toNat := by
  have hgt : ¬c.val.toNat ≤ 127 := Nat.not_le_of_lt h
  simp only [String.utf8EncodeChar, if_neg hgt]
  split
  · exact ⟨_, _, rfl, by rw [UInt8.toNat_ofNat']; omega⟩
  split
  · exact ⟨_, _, rfl, by rw [UInt8.toNat_ofNat']; omega⟩
  · exact ⟨_, _, rfl, by rw [UInt8.toNat_ofNat']; omega⟩

/-- One change of bytes and characters, which keeps to either side of the end of ASCII. -/
structure Bytewise (f : UInt8 → UInt8) (g : Char → Char) : Prop where
  ascii {c : Char} : c.toNat < 128 → (g c).toNat < 128 ∧ f (.ofNat c.toNat) = .ofNat (g c).toNat
  byte_le {byte : UInt8} : 128 ≤ byte.toNat → 128 ≤ (f byte).toNat
  char_le {c : Char} : 128 ≤ c.toNat → 128 ≤ (g c).toNat

theorem bytewise_id : Bytewise id id where
  ascii h := ⟨h, rfl⟩
  byte_le h := h
  char_le h := h

theorem bytewise_upperByte : Bytewise upperByte Char.toUpper where
  ascii {c} h := by
    have hall : ∀ n < 128, ((Char.ofNat n).toUpper).toNat < 128 ∧
        upperByte (.ofNat n) = .ofNat ((Char.ofNat n).toUpper).toNat := by decide
    have hc := hall c.toNat h
    rwa [Char.ofNat_toNat] at hc
  byte_le {byte} h := by
    unfold upperByte
    split
    next hrange =>
      have hle : byte.toNat ≤ 122 := hrange.2
      omega
    next => exact h
  char_le {c} h := by
    unfold Char.toUpper
    split
    next hrange =>
      have hle : c.toNat ≤ 122 := hrange.2
      omega
    next => exact h

/-- Of a word in ASCII the bytes are found exactly where its characters are. -/
theorem Bytewise.take_eq_iff (h : Bytewise f g) (rest : List Char) (hword : ∀ c ∈ word, c.toNat < 128) :
    ((bytes rest).take (bytes word).length).map f = bytes word ↔
      (rest.take word.length).map g = word := by
  induction word generalizing rest with
  | nil => simp [bytes]
  | cons w word ih =>
    have hw : w.toNat < 128 := hword w List.mem_cons_self
    have hbytes : bytes (w :: word) = UInt8.ofNat w.toNat :: bytes word := by
      rw [bytes_cons, utf8EncodeChar_of_lt hw, List.singleton_append]
    rw [hbytes]
    cases rest with
    | nil => simp [bytes]
    | cons c rest =>
      have htail := ih rest fun c hc => hword c (List.mem_cons_of_mem w hc)
      by_cases hc : c.toNat < 128
      · obtain ⟨hlt, hf⟩ := h.ascii hc
        have hhead : f (.ofNat c.toNat) = .ofNat w.toNat ↔ g c = w := by
          rw [hf]
          constructor
          · intro hbyte
            have hnat := congrArg UInt8.toNat hbyte
            simp only [UInt8.toNat_ofNat'] at hnat
            exact Char.toNat_inj.mp (by omega)
          · rintro rfl
            rfl
        rw [bytes_cons, utf8EncodeChar_of_lt hc]
        simp only [List.singleton_append, List.length_cons, List.take_succ_cons, List.map_cons,
          List.cons.injEq, hhead, htail]
      · obtain ⟨byte, tail, hencode, hbyte⟩ := exists_utf8EncodeChar_of_le (Nat.le_of_not_lt hc)
        have hfbyte := h.byte_le hbyte
        have hgc := h.char_le (Nat.le_of_not_lt hc)
        have hne : f byte ≠ .ofNat w.toNat := by
          intro heq
          rw [heq, UInt8.toNat_ofNat'] at hfbyte
          omega
        have hne' : g c ≠ w := by
          rintro rfl
          omega
        rw [bytes_cons, hencode]
        simp [hne, hne']

/-- The characters found have as many bytes as the word. -/
theorem Bytewise.length_bytes_eq {chars : List Char} (h : Bytewise f g)
    (hword : ∀ c ∈ chars.map g, c.toNat < 128) :
    (bytes chars).length = (bytes (chars.map g)).length := by
  induction chars with
  | nil => rfl
  | cons c chars ih =>
    have hgc : (g c).toNat < 128 := hword (g c) List.mem_cons_self
    have hc : c.toNat < 128 := Nat.lt_of_not_le fun hle => by
      have hle := h.char_le hle
      omega
    have htail := ih fun d hd => hword d (List.mem_cons_of_mem _ hd)
    rw [List.map_cons, bytes_cons, bytes_cons, utf8EncodeChar_of_lt hc, utf8EncodeChar_of_lt hgc]
    simp [htail]

theorem drop_bytes_offset (text : List Char) (column : Nat) :
    (bytes text).drop (offset text column) = bytes (text.drop column) := by
  have hsplit := congrArg bytes (List.take_append_drop column text)
  rw [bytes_append] at hsplit
  rw [← hsplit, offset, List.drop_left]

end Text

/-! ## Terminals -/

namespace Terminal

open Text (bytes offset)

variable {text rest : List Char} {column : Nat}

theorem symbol_ascii (s : Symbol) : ∀ c ∈ s.text.toList, c.toNat < 128 := by
  have hall : s.text.toList.all fun c => c.toNat < 128 := by
    rcases s with kind | _ | _ | _ | _ | _
    · cases kind <;> decide
    all_goals decide
  simpa using hall

theorem keyword_ascii (k : Keyword) : ∀ c ∈ k.text.toList, c.toNat < 128 := by
  have hall : k.text.toList.all fun c => c.toNat < 128 := by
    rcases k with op | _
    · cases op <;> decide
    · decide
  simpa using hall

/-- At the offset of a column a terminal is found by its bytes exactly if it is found by its
characters, and takes up the bytes of these. -/
theorem sizeAt?_offset (t : Terminal) {text : List Char} (h : column ≤ text.length) :
    t.sizeAt? text (offset text column) = some ((t.strip? (text.drop column)).map fun _ =>
      (bytes ((text.drop column).take t.width)).length) := by
  cases t with
  | symbol s =>
    have hfound := Text.bytewise_id.take_eq_iff (text.drop column) (symbol_ascii s)
    simp only [List.map_id] at hfound
    simp only [sizeAt?, Text.splitAt?_offset, strip?, width, ← String.length_toList]
    by_cases hword : (text.drop column).take s.text.toList.length = s.text.toList
    · simp [hfound, hword]
    · simp [hfound, hword]
  | keyword k =>
    have hfound := Text.bytewise_upperByte.take_eq_iff (text.drop column) (keyword_ascii k)
    simp only [sizeAt?, Text.drop_bytes_offset, strip?, width, ← String.length_toList]
    by_cases hword : ((text.drop column).take k.text.toList.length).map Char.toUpper = k.text.toList
    · have hlength := Text.bytewise_upperByte.length_bytes_eq (hword ▸ keyword_ascii k)
      rw [hword] at hlength
      rw [if_pos (hfound.mpr hword), if_pos hword, hlength]
      rfl
    · rw [if_neg (mt hfound.mp hword), if_neg hword]
      rfl
  | character cls =>
    simp only [sizeAt?, Text.splitAt?_offset, strip?, width]
    cases text.drop column with
    | nil => rfl
    | cons c rest =>
      by_cases hc : cls.contains c <;> simp [hc, bytes]
  | endOfInput =>
    have hend : offset text column = (bytes text).length ↔ (text.drop column).isEmpty := by
      rw [List.isEmpty_iff, List.drop_eq_nil_iff, ← Text.offset_length]
      refine ⟨fun hoffset => Nat.le_of_not_lt fun hlt => ?_, fun hle => by rw [Nat.le_antisymm h hle]⟩
      have hoffset_lt := Text.offset_lt_offset hlt (Nat.le_refl _)
      omega
    simp only [sizeAt?, strip?, width, hend]
    by_cases hempty : (text.drop column).isEmpty <;> simp [hempty, bytes]

end Terminal

end TagQuery
