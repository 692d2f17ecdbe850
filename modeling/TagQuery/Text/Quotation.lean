import TagQuery.Text.Hex

/-!
# What a quotation is good for

* `readQuotation?`: the text that is quoted, and what follows the closing mark. Control characters
  may be escaped with two hexadecimal digits, or with any number of them in braces.
* `IsPlain`: a text without control characters, which stays on the line where it is shown.
-/

namespace TagQuery.Text

/-! ## Reading -/

/-- The character that an escape stands for, without its backslash, and what follows. -/
def readEscape? : List Char → Option (Char × List Char)
  | '\\' :: rest => some ('\\', rest)
  | '"' :: rest => some ('"', rest)
  | '0' :: rest => some ('\x00', rest)
  | 't' :: rest => some ('\t', rest)
  | 'n' :: rest => some ('\n', rest)
  | 'r' :: rest => some ('\r', rest)
  | 'x' :: high :: low :: rest => (Hex.read? [high, low] 0).map (Char.ofNat ·, rest)
  | 'u' :: '{' :: rest =>
    match rest.dropWhile (· != '}') with
    | _ :: next => (Hex.read? (rest.takeWhile (· != '}')) 0).map (Char.ofNat ·, next)
    | [] => none
  | _ => none

/-- One character of a quotation, and what follows. -/
def readQuotedChar? : List Char → Option (Char × List Char)
  | '\\' :: rest => readEscape? rest
  | c :: rest => some (c, rest)
  | [] => none

/-- The characters up to the closing mark, and what follows it. -/
def readQuotedBody? (text : List Char) : Option (List Char × List Char) :=
  match text with
  | '"' :: rest => some ([], rest)
  | text =>
    match readQuotedChar? text with
    | none => none
    | some (c, rest) =>
      -- Always so: every character is read from one character at least.
      if _h : rest.length < text.length then
        (readQuotedBody? rest).map fun (body, rest) => (c :: body, rest)
      else none
termination_by text.length
decreasing_by exact _h

/-- The text of a quotation, and what follows it. -/
def readQuotation? : List Char → Option (String × List Char)
  | '"' :: text => (readQuotedBody? text).map fun (body, rest) => (String.ofList body, rest)
  | _ => none

/-! ## Staying on a line -/

/-- The character is no control character: these are U+0000 to U+001F and U+007F to U+009F. -/
def IsPlainChar (c : Char) : Prop :=
  0x1F < c.toNat ∧ (c.toNat < 0x7F ∨ 0x9F < c.toNat)

/-- None of the characters is a control character. -/
def IsPlain (text : String) : Prop :=
  ∀ c ∈ text.toList, IsPlainChar c

instance (c : Char) : Decidable (IsPlainChar c) :=
  inferInstanceAs (Decidable (_ ∧ _))

instance (text : String) : Decidable (IsPlain text) :=
  List.decidableBAll IsPlainChar text.toList

end TagQuery.Text
