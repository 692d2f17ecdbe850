import TagQuery.Expr
import TagQuery.Rejection

/-!
# Other characters beyond ASCII

The query language is spelled in ASCII. Every other character is only ever part of a quoted value,
or stands where it does not belong.

* `Renaming`: puts other characters in the place of those beyond ASCII, and leaves ASCII alone. It
  may put one character in the place of several, and one that takes up more or fewer bytes.
* `Renaming.single`: the change of a single character.
* `Renaming.text`, `Tag.rename`, `Expr.rename`, `Rejection.rename`: what becomes of a text, of the
  values in an expression, and of the character that an explanation names.
-/

namespace TagQuery

/-- A change of characters that keeps to either side of the end of ASCII. -/
structure Renaming where
  /-- What a character becomes. -/
  map : Char → Char
  map_ascii : ∀ c, c.toNat < 128 → map c = c
  le_map : ∀ c, 128 ≤ c.toNat → 128 ≤ (map c).toNat

/-- One character beyond ASCII in the place of another. -/
def Renaming.single (old new : Char) (hold : 128 ≤ old.toNat) (hnew : 128 ≤ new.toNat) : Renaming where
  map c := if c = old then new else c
  map_ascii c hc := by
    have hne : c ≠ old := by
      rintro rfl
      omega
    exact if_neg hne
  le_map c hc := by
    split
    · exact hnew
    · exact hc

/-- A text with its characters renamed. -/
def Renaming.text (r : Renaming) (text : String) : String :=
  text.map r.map

/-- A tag with the characters of its value renamed. -/
def Tag.rename (r : Renaming) (t : Tag) : Tag :=
  .ofKind t.kind (r.text t.value) t.synonyms

/-- An expression with the values of all its tags renamed. -/
def Expr.rename (r : Renaming) : Expr → Expr
  | tag t => tag (t.rename r)
  | negation operand => negation (operand.rename r)
  | binary op left right => binary op (left.rename r) (right.rename r)

/-- A rejection with the character renamed that was found. -/
def Rejection.rename (r : Renaming) : Rejection → Rejection
  | unexpected column expected found => unexpected column expected (found.map r.map)
  | tooDeep column limit => tooDeep column limit

end TagQuery
