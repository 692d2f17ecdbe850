import TagQuery.Text.Hex

/-!
# JSON string literals

* `Json.quote`: a text as a literal. Only quotation marks, backslashes and the characters below
  U+0020 are escaped.
* `Json.readLiteral?`: the text of a literal, and what follows it. Every escape of JSON is read; a
  surrogate that is not half of a pair names no character and is refused.
-/

namespace TagQuery.Json

/-! ## Writing -/

/-- One character inside a literal. -/
def escapeChar (c : Char) : List Char :=
  match c with
  | '"' => ['\\', '"']
  | '\\' => ['\\', '\\']
  | '\x08' => ['\\', 'b']
  | '\x0c' => ['\\', 'f']
  | '\n' => ['\\', 'n']
  | '\r' => ['\\', 'r']
  | '\t' => ['\\', 't']
  | c =>
    if c.toNat < 0x20 then
      ['\\', 'u', '0', '0', Text.Hex.digit (c.toNat / 16), Text.Hex.digit (c.toNat % 16)]
    else [c]

/-- A text as a string literal. -/
def quote (text : String) : String :=
  String.ofList ('"' :: (text.toList.flatMap escapeChar ++ ['"']))

/-! ## Reading -/

/-- The value of four hexadecimal digits, and what follows them. -/
def readUnit? : List Char → Option (Nat × List Char)
  | a :: b :: c :: d :: rest => (Text.Hex.read? [a, b, c, d] 0).map (·, rest)
  | _ => none

/-- The character that four hexadecimal digits name, or two groups of them if the first is the
first half of a surrogate pair, and what follows. -/
def readCodePoint? (text : List Char) : Option (Char × List Char) := do
  let (high, rest) ← readUnit? text
  if high < 0xD800 || 0xDFFF < high then
    return (Char.ofNat high, rest)
  else if high < 0xDC00 then
    match rest with
    | '\\' :: 'u' :: rest =>
      let (low, rest) ← readUnit? rest
      if 0xDC00 ≤ low && low ≤ 0xDFFF then
        return (Char.ofNat (0x10000 + (high - 0xD800) * 0x400 + (low - 0xDC00)), rest)
      else none
    | _ => none
  else none

/-- The character after a backslash that is not `u`. -/
def unescape? : Char → Option Char
  | '"' => some '"'
  | '\\' => some '\\'
  | '/' => some '/'
  | 'b' => some '\x08'
  | 'f' => some '\x0c'
  | 'n' => some '\n'
  | 'r' => some '\r'
  | 't' => some '\t'
  | _ => none

/-- One character of a literal, and what follows it. -/
def readChar? : List Char → Option (Char × List Char)
  | '\\' :: 'u' :: rest => readCodePoint? rest
  | '\\' :: c :: rest => (unescape? c).map (·, rest)
  | c :: rest => if c = '\\' || c.toNat < 0x20 then none else some (c, rest)
  | [] => none

/-- What a reader leaves is shorter than what it was given. -/
theorem readUnit?_length {text rest : List Char} {n : Nat} (h : readUnit? text = some (n, rest)) :
    rest.length < text.length := by
  unfold readUnit? at h
  split at h
  · obtain ⟨_, _, h⟩ := Option.map_eq_some_iff.1 h
    cases h
    simp
    omega
  · simp at h

theorem readCodePoint?_length {text rest : List Char} {c : Char}
    (h : readCodePoint? text = some (c, rest)) : rest.length < text.length := by
  simp only [readCodePoint?, Option.bind_eq_bind, Option.bind_eq_some_iff, Prod.exists] at h
  obtain ⟨high, afterHigh, hHigh, h⟩ := h
  have hlt := readUnit?_length hHigh
  split at h
  · simp only [Option.pure_def, Option.some.injEq, Prod.mk.injEq] at h
    exact h.2 ▸ hlt
  · split at h
    · split at h
      · obtain ⟨⟨low, afterLow⟩, hLow, h⟩ := Option.bind_eq_some_iff.1 h
        have := readUnit?_length hLow
        split at h
        · simp only [Option.pure_def, Option.some.injEq, Prod.mk.injEq] at h
          obtain ⟨-, rfl⟩ := h
          simp only [List.length_cons] at hlt
          omega
        · simp at h
      · simp at h
    · simp at h

theorem readChar?_length {text rest : List Char} {c : Char} (h : readChar? text = some (c, rest)) :
    rest.length < text.length := by
  unfold readChar? at h
  split at h
  · have := readCodePoint?_length h
    simp only [List.length_cons]
    omega
  · obtain ⟨_, _, h⟩ := Option.map_eq_some_iff.1 h
    cases h
    simp only [List.length_cons]
    omega
  · split at h
    · simp at h
    · cases h
      simp
  · simp at h

/-- The characters up to the closing quotation mark, and what follows it. -/
def readBody? (text : List Char) : Option (List Char × List Char) :=
  match text with
  | '"' :: rest => some ([], rest)
  | text =>
    match h : readChar? text with
    | none => none
    | some (c, rest) =>
      have := readChar?_length h
      (readBody? rest).map fun (body, rest) => (c :: body, rest)
termination_by text.length

/-- The text of a string literal, and what follows it. -/
def readLiteral? : List Char → Option (String × List Char)
  | '"' :: text => (readBody? text).map fun (body, rest) => (String.ofList body, rest)
  | _ => none

end TagQuery.Json
