/-!
# Tags

A tag is a leaf of a query: what to look for, and in which annotations.

* `TagKind`: semantic class, keyword, comment text, or pattern; each has a one-letter marker.
* `TagKind.ofMarker?`: the kind that a marker stands for.
* `Tag`: a kind with its value. Only a semantic tag carries a synonyms flag, so the other
  constructors have no room for one.
* `Tag.text`: the canonical spelling, in which a value stands bare exactly when it is a word.
-/

namespace TagQuery

/-- The kinds of tag. -/
inductive TagKind where
  | semantic
  | keyword
  | comment
  | regex
  deriving DecidableEq

namespace TagKind

/-- Every kind, in the order in which a query tries them. -/
def all : List TagKind :=
  [.semantic, .keyword, .comment, .regex]

/-- The letter that opens a tag of this kind. -/
def marker : TagKind → String
  | .semantic => "s"
  | .keyword => "k"
  | .comment => "c"
  | .regex => "r"

/-- The name of the kind on the wire. -/
def name : TagKind → String
  | .semantic => "semantic"
  | .keyword => "keyword"
  | .comment => "comment"
  | .regex => "regex"

/-- The kind whose marker is `marker`, which must be the letter alone and in lower case. -/
def ofMarker? (marker : String) : Option TagKind :=
  all.find? (·.marker == marker)

/-- The kind whose name on the wire is `name`. -/
def ofName? (name : String) : Option TagKind :=
  all.find? (·.name == name)

@[simp] theorem mem_all (kind : TagKind) : kind ∈ all := by
  cases kind <;> decide

@[simp] theorem ofMarker?_marker (kind : TagKind) : ofMarker? kind.marker = some kind := by
  cases kind <;> decide

@[simp] theorem ofName?_name (kind : TagKind) : ofName? kind.name = some kind := by
  cases kind <;> decide

end TagKind

/-- A leaf of a query. -/
inductive Tag where
  /-- A class label; with `synonyms` its synonyms are meant as well. -/
  | semantic (value : String) (synonyms : Bool)
  /-- A free keyword. -/
  | keyword (value : String)
  /-- A text in a comment. -/
  | comment (value : String)
  /-- A pattern that a label has to match. -/
  | regex (value : String)
  deriving DecidableEq

namespace Tag

/-- A tag of a given kind; `synonyms` counts for semantic tags only. -/
def ofKind (kind : TagKind) (value : String) (synonyms : Bool) : Tag :=
  match kind with
  | .semantic => .semantic value synonyms
  | .keyword => .keyword value
  | .comment => .comment value
  | .regex => .regex value

def kind : Tag → TagKind
  | .semantic .. => .semantic
  | .keyword _ => .keyword
  | .comment _ => .comment
  | .regex _ => .regex

def value : Tag → String
  | .semantic value _ | .keyword value | .comment value | .regex value => value

/-- Whether synonyms are meant too. -/
def synonyms : Tag → Bool
  | .semantic _ synonyms => synonyms
  | _ => false

/-- A tag is its kind, its value and its flag. -/
theorem ofKind_kind (tag : Tag) : ofKind tag.kind tag.value tag.synonyms = tag := by
  cases tag <;> rfl

@[simp] theorem kind_ofKind (kind : TagKind) (value : String) (synonyms : Bool) :
    (ofKind kind value synonyms).kind = kind := by
  cases kind <;> rfl

@[simp] theorem value_ofKind (kind : TagKind) (value : String) (synonyms : Bool) :
    (ofKind kind value synonyms).value = value := by
  cases kind <;> rfl

/-! ## Canonical text -/

/-- Whether a value may stand without quotation marks: one or more ASCII letters and digits. -/
def isWord (value : String) : Bool :=
  value ≠ "" && value.toList.all Char.isAlphanum

/-- A value between quotation marks unless it is a word. Nothing inside is escaped, so a value
that is empty or holds a quotation mark does not read back. -/
def valueText (value : String) : String :=
  if isWord value then value else "\"" ++ value ++ "\""

/-- The canonical spelling of a tag. -/
def text : Tag → String
  | .semantic value synonyms => "s:" ++ valueText value ++ (if synonyms then "+s" else "")
  | .keyword value => "k:" ++ valueText value
  | .comment value => "c:" ++ valueText value
  | .regex value => "r:/" ++ value ++ "/"

end Tag

end TagQuery
