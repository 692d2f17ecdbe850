/-!
# Offsets in bytes

A character takes up one to four bytes, so a place in a text has an offset beside its column, and not
every offset is that of a place between two characters.

* `Text.bytes`: the bytes of a text. `Text.offset text column`: how many come before a column.
* `Text.splitAt? text position`: the characters before and after an offset, if it does not lie inside
  a character (`Text.splitAt?_eq_some_iff`). Those offsets are the valid positions of a string
  (`Text.isValid_iff`).
* `Text.column? text position`: the column at an offset, found by counting. `Text.slice?`: the
  characters from one offset to another.
-/

namespace TagQuery.Text

variable {text before after : List Char} {column later position : Nat}

/-- The bytes that a text takes up. -/
def bytes (text : List Char) : List UInt8 :=
  text.flatMap String.utf8EncodeChar

@[simp] theorem bytes_append (a b : List Char) : bytes (a ++ b) = bytes a ++ bytes b := by
  simp [bytes]

theorem bytes_cons (c : Char) (text : List Char) :
    bytes (c :: text) = String.utf8EncodeChar c ++ bytes text := by
  simp [bytes]

theorem length_bytes_cons (c : Char) (text : List Char) :
    (bytes (c :: text)).length = c.utf8Size + (bytes text).length := by
  simp [bytes_cons]

theorem length_bytes (text : List Char) :
    (bytes text).length = (String.ofList text).utf8ByteSize := by
  induction text with
  | nil => rfl
  | cons c text ih =>
    rw [length_bytes_cons, ih, String.ofList_cons, String.utf8ByteSize_append,
      String.utf8ByteSize_singleton]

/-! ## Offsets of columns -/

/-- How many bytes come before a column. -/
def offset (text : List Char) (column : Nat) : Nat :=
  (bytes (text.take column)).length

theorem offset_add (text : List Char) (column count : Nat) : offset text (column + count) =
    offset text column + (bytes ((text.drop column).take count)).length := by
  simp [offset, List.take_add]

theorem offset_length (text : List Char) : offset text text.length = (bytes text).length := by
  simp [offset]

/-- Every character before a column takes up a byte at least. -/
theorem length_le_length_bytes (text : List Char) : text.length ≤ (bytes text).length := by
  induction text with
  | nil => simp
  | cons c text ih =>
    have hbyte := c.utf8Size_pos
    rw [length_bytes_cons, List.length_cons]
    omega

theorem offset_lt_offset (hlt : column < later) (hle : later ≤ text.length) :
    offset text column < offset text later := by
  obtain ⟨count, rfl⟩ : ∃ count, later = column + count := ⟨later - column, by omega⟩
  have hbytes := length_le_length_bytes ((text.drop column).take count)
  rw [List.length_take, List.length_drop] at hbytes
  rw [offset_add]
  omega

/-- Offsets are in the order of their columns. -/
theorem offset_lt_offset_iff (hcolumn : column ≤ text.length) (hlater : later ≤ text.length) :
    offset text column < offset text later ↔ column < later := by
  refine ⟨fun h => Nat.lt_of_not_le fun hle => ?_, fun h => offset_lt_offset h hlater⟩
  rcases Nat.lt_or_eq_of_le hle with hlt | rfl
  · have hlt := offset_lt_offset hlt hcolumn
    omega
  · exact absurd h (Nat.lt_irrefl _)

theorem offset_le (text : List Char) (column : Nat) : offset text column ≤ (bytes text).length := by
  have hsplit := congrArg (fun chars => (bytes chars).length) (List.take_append_drop column text)
  simp only [bytes_append, List.length_append] at hsplit
  simp only [offset]
  omega

theorem column_le_offset (h : column ≤ text.length) : column ≤ offset text column := by
  have hbytes := length_le_length_bytes (text.take column)
  rw [List.length_take] at hbytes
  simp only [offset]
  omega

/-! ## Columns of offsets -/

/-- The characters before and after an offset, if it does not lie inside one. -/
def splitAt? : (text : List Char) → (position : Nat) → Option (List Char × List Char)
  | text, 0 => some ([], text)
  | [], _ + 1 => none
  | c :: text, position + 1 =>
    if c.utf8Size ≤ position + 1 then
      (splitAt? text (position + 1 - c.utf8Size)).map fun (before, after) => (c :: before, after)
    else none

/-- The column at an offset. -/
def column? (text : List Char) (position : Nat) : Option Nat :=
  (splitAt? text position).map (·.1.length)

/-- The characters from one offset to another. -/
def slice? (text : List Char) (first last : Nat) : Option (List Char) := do
  let (_, after) ← splitAt? text first
  let (inside, _) ← splitAt? after (last - first)
  return inside

theorem splitAt?_eq_some_iff : splitAt? text position = some (before, after) ↔
    before ++ after = text ∧ (bytes before).length = position := by
  induction text, position using splitAt?.induct generalizing before with
  | case1 text =>
    have hempty := length_le_length_bytes before
    simp only [splitAt?, Option.some.injEq, Prod.mk.injEq]
    constructor
    · rintro ⟨rfl, rfl⟩
      exact ⟨rfl, rfl⟩
    · rintro ⟨rfl, hbytes⟩
      obtain rfl : before = [] := List.length_eq_zero_iff.mp (by omega)
      exact ⟨rfl, rfl⟩
  | case2 position =>
    simp only [splitAt?, reduceCtorEq, List.append_eq_nil_iff, false_iff, not_and, and_imp]
    rintro rfl -
    simp [bytes]
  | case3 c text position hle ih =>
    rw [splitAt?, if_pos hle]
    cases before with
    | nil => simp [bytes]
    | cons d before =>
      have hrest := @ih before
      simp only [Option.map_eq_some_iff, Prod.exists, Prod.mk.injEq, List.cons.injEq,
        List.cons_append, length_bytes_cons]
      constructor
      · rintro ⟨_, _, hsplit, ⟨rfl, rfl⟩, rfl⟩
        obtain ⟨happend, hbytes⟩ := hrest.mp hsplit
        exact ⟨⟨rfl, happend⟩, by omega⟩
      · rintro ⟨⟨rfl, happend⟩, hbytes⟩
        exact ⟨before, after, hrest.mpr ⟨happend, by omega⟩, ⟨rfl, rfl⟩, rfl⟩
  | case4 c text position hgt =>
    rw [splitAt?, if_neg hgt]
    cases before with
    | nil => simp [bytes]
    | cons d before =>
      simp only [reduceCtorEq, List.cons_append, List.cons.injEq, length_bytes_cons, false_iff]
      rintro ⟨⟨rfl, -⟩, hbytes⟩
      omega

/-- The offset of a column lies between the characters before and after the column. -/
theorem splitAt?_offset (text : List Char) (column : Nat) :
    splitAt? text (offset text column) = some (text.take column, text.drop column) :=
  splitAt?_eq_some_iff.mpr ⟨List.take_append_drop column text, rfl⟩

/-- Counting the characters before an offset gives the column back. -/
theorem column?_offset (h : column ≤ text.length) : column? text (offset text column) = some column := by
  simp [column?, splitAt?_offset, Nat.min_eq_left h]

theorem slice?_offset (text : List Char) (column count : Nat) :
    slice? text (offset text column) (offset text (column + count)) =
      some ((text.drop column).take count) := by
  have hinside : offset text (column + count) - offset text column =
      offset (text.drop column) count := by
    rw [offset_add]
    simp [offset]
  simp [slice?, splitAt?_offset, hinside]

/-- Offsets between two characters are the valid positions of a string. -/
theorem isValid_iff {text : String} :
    String.Pos.Raw.IsValid text ⟨position⟩ ↔ (splitAt? text.toList position).isSome := by
  rw [String.Pos.Raw.isValid_iff_exists_append, Option.isSome_iff_exists]
  constructor
  · rintro ⟨before, after, rfl, hposition⟩
    have hbytes : position = before.utf8ByteSize := congrArg String.Pos.Raw.byteIdx hposition
    refine ⟨(before.toList, after.toList), splitAt?_eq_some_iff.mpr ⟨?_, ?_⟩⟩
    · exact String.toList_append.symm
    · rw [length_bytes, String.ofList_toList, hbytes]
  · rintro ⟨⟨before, after⟩, hsplit⟩
    obtain ⟨happend, hbytes⟩ := splitAt?_eq_some_iff.mp hsplit
    refine ⟨.ofList before, .ofList after, ?_, ?_⟩
    · rw [← String.ofList_append, happend, String.ofList_toList]
    · rw [← hbytes, length_bytes]
      rfl

end TagQuery.Text
