import TagQuery.Language.Derivation

/-!
# What occurs in a query, from left to right

* `HasTags`: the tags of a text in the order in which they occur in it. Nothing about how they are
  grouped or joined is part of it.
* `IsChain`: the parts that operators join into a query, in the order in which they are written.
-/

namespace TagQuery

/-- The tags of a text, from left to right. Beside them there are only spaces, parentheses and
keywords. -/
inductive HasTags : (text : List Char) → (tags : List Tag) → Prop where
  | nil : HasTags [] []
  | mark {c rest tags} (mark : c ∈ [' ', '(', ')']) : HasTags rest tags → HasTags (c :: rest) tags
  | keyword {k word rest tags} : (Terminal.keyword k).Matches word → HasTags rest tags →
      HasTags (word ++ rest) tags
  | tag {text t rest tags} : IsTag text t rest → HasTags rest tags → HasTags text (t :: tags)

/-- The parts of a query that is a chain, from left to right: each but the last is an operand with an
operator after it, and the last is an operand or a negation. -/
inductive IsChain (limit : Nat) :
    (level : Nat) → (text : List Char) → (parts : List Expr) → (rest : List Char) → Prop where
  | operand {level text e rest} : IsOperand limit level text e rest →
      IsChain limit level text [e] rest
  | negation {level before after word text e rest} :
      (Terminal.keyword .not).Matches word → IsOperand limit (level + 1) text e rest →
      IsChain limit level (spaces before ++ word ++ spaces after ++ text) [.negation e] rest
  | link {level before after op word text left parts rest middle} :
      IsOperand limit level text left (spaces before ++ word ++ spaces after ++ middle) →
      (Terminal.keyword (.operator op)).Matches word →
      IsChain limit (level + 1) middle parts rest →
      IsChain limit level text (left :: parts) rest

end TagQuery
