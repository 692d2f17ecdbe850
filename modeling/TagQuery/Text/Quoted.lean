import TagQuery.Text.CharSet
import TagQuery.Text.Hex

/-!
# Quoted text in messages

* `quote`: a text between quotation marks, as an explanation of a rejected query shows it.
  Quotation marks, backslashes and control characters are escaped, so a message stays on one line
  and the text can be read back from it.
-/

namespace TagQuery.Text

/-- One character inside a quotation: a control character without a letter of its own is written
with two hexadecimal digits, which is enough for all of them. -/
def quoteChar (c : Char) : List Char :=
  match c with
  | '\\' => ['\\', '\\']
  | '"' => ['\\', '"']
  | '\x00' => ['\\', '0']
  | '\t' => ['\\', 't']
  | '\n' => ['\\', 'n']
  | '\r' => ['\\', 'r']
  | c =>
    if isControl c then
      ['\\', 'x', Hex.upperDigit (c.toNat / 16), Hex.upperDigit (c.toNat % 16)]
    else [c]

/-- A text as a message quotes it. -/
def quote (text : String) : String :=
  String.ofList ('"' :: (text.toList.flatMap quoteChar ++ ['"']))

end TagQuery.Text
