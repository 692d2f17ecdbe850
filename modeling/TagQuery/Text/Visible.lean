import TagQuery.Text.DefaultIgnorable
import TagQuery.Text.GraphemeExtend
import TagQuery.Text.Hex
import TagQuery.Text.Unprintable

/-!
# Visible text in logs

* `visible`: a text between quotation marks, as a log entry shows it. Whatever has no visible
  form of its own is written as its code point in braces, so two texts that differ look
  different.
-/

namespace TagQuery.Text

/-- Whether a log shows a character by its code point: it has no glyph, is drawn as nothing, or
is drawn onto the character before it. -/
def isHidden (c : Char) : Bool :=
  isControl c || unprintable.contains c || defaultIgnorable.contains c || joinsPrevious c

/-- One character inside a log entry's quotation. -/
def visibleChar (c : Char) : List Char :=
  match c with
  | '\\' => ['\\', '\\']
  | '"' => ['\\', '"']
  | '\x00' => ['\\', '0']
  | '\t' => ['\\', 't']
  | '\n' => ['\\', 'n']
  | '\r' => ['\\', 'r']
  | c =>
    if isHidden c then '\\' :: 'u' :: '{' :: (Hex.digits c.toNat ++ ['}'])
    else [c]

/-- A text as a log entry quotes it. -/
def visible (text : String) : String :=
  String.ofList ('"' :: (text.toList.flatMap visibleChar ++ ['"']))

end TagQuery.Text
