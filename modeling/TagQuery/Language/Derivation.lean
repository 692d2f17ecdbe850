import TagQuery.Terminal

/-!
# The query language as a relation

The grammar without order and without a reader. Each relation is between a text, what its first part
stands for, and the rest of it, which the first part does not include.

* `Terminal.Matches`: the texts that a terminal stands for. `Terminal.CanBegin`: the characters that
  they begin with.
* `IsValue`, `IsTag`: the spellings of values and tags. A bare value ends where no further letter or
  digit stands; nothing else depends on the rest.
* `IsOperand limit level` and `IsQuery limit level`: operands and queries on a level, of which every
  operand lies on a level up to the limit.
-/

namespace TagQuery

/-- A text that a terminal stands for. -/
def Terminal.Matches (terminal : Terminal) (text : List Char) : Prop :=
  match terminal with
  | .symbol s => text = s.text.toList
  | .keyword k => text.map Char.toUpper = k.text.toList
  | .character cls => ∃ c, cls.contains c ∧ text = [c]
  | .endOfInput => text = []

/-- A character that some text begins with that the terminal stands for. -/
def Terminal.CanBegin (terminal : Terminal) (c : Char) : Prop :=
  ∃ text, terminal.Matches (c :: text)

/-- As many spaces as the number says. -/
def spaces (count : Nat) : List Char :=
  List.replicate count ' '

/-! ## Values and tags -/

/-- The spellings of a value. -/
inductive IsValue : (text : List Char) → (value : String) → (rest : List Char) → Prop where
  | bare {word rest : List Char} (nonempty : word ≠ []) (letters : ∀ c ∈ word, c.isAlphanum)
      (ends : ∀ c ∈ rest.head?, ¬c.isAlphanum) :
      IsValue (word ++ rest) (String.ofList word) rest
  | quoted {body rest : List Char} (nonempty : body ≠ []) (unquoted : '"' ∉ body) :
      IsValue ('"' :: body ++ '"' :: rest) (String.ofList body) rest

/-- The spellings of a tag. -/
inductive IsTag : (text : List Char) → (tag : Tag) → (rest : List Char) → Prop where
  | semantic {text value rest} : IsValue text value rest →
      IsTag ('s' :: ':' :: text) (.semantic value false) rest
  | synonyms {text value rest} : IsValue text value ('+' :: 's' :: rest) →
      IsTag ('s' :: ':' :: text) (.semantic value true) rest
  | keyword {text value rest} : IsValue text value rest →
      IsTag ('k' :: ':' :: text) (.keyword value) rest
  | comment {text value rest} : IsValue text value rest →
      IsTag ('c' :: ':' :: text) (.comment value) rest
  | regex {body rest : List Char} (nonempty : body ≠ [])
      (inClass : ∀ c ∈ body, CharClass.pattern.contains c) :
      IsTag ('r' :: ':' :: '/' :: body ++ '/' :: rest) (.regex (String.ofList body)) rest

/-! ## Operands and queries -/

mutual

/-- The spellings of an operand on a level. -/
inductive IsOperand (limit : Nat) :
    (level : Nat) → (text : List Char) → (e : Expr) → (rest : List Char) → Prop where
  | tag {level text t rest} (within : level ≤ limit) : IsTag text t rest →
      IsOperand limit level text (.tag t) rest
  | group {level text e rest} (within : level ≤ limit) :
      IsQuery limit (level + 1) text e (')' :: rest) →
      IsOperand limit level ('(' :: text) e rest

/-- The spellings of a query on a level. -/
inductive IsQuery (limit : Nat) :
    (level : Nat) → (text : List Char) → (e : Expr) → (rest : List Char) → Prop where
  | operand {level text e rest} : IsOperand limit level text e rest →
      IsQuery limit level text e rest
  | negation {level before after word text e rest} :
      (Terminal.keyword .not).Matches word → IsOperand limit (level + 1) text e rest →
      IsQuery limit level (spaces before ++ word ++ spaces after ++ text) (.negation e) rest
  | binary {level before after op word text left right rest middle} :
      IsOperand limit level text left (spaces before ++ word ++ spaces after ++ middle) →
      (Terminal.keyword (.operator op)).Matches word →
      IsQuery limit (level + 1) middle right rest →
      IsQuery limit level text (.binary op left right) rest

end

end TagQuery
