/-!
# Separated items

* `Text.readSeparated?`: one or more items with a separator between them. Readers here and elsewhere
  take a text to what they read and what follows it, or to nothing.
-/

namespace TagQuery.Text

/-- One or more items with a separator between them, and what follows. A separator after which no
item can be read is left standing. -/
def readSeparated? {α : Type} (item : List Char → Option (α × List Char)) (separator : Char)
    (text : List Char) : Option (List α × List Char) :=
  match item text with
  | none => none
  | some (first, rest) =>
    match rest with
    | [] => some ([first], [])
    | c :: next =>
      -- Always so for a reader that leaves no more text than it was given.
      if _h : c = separator ∧ next.length < text.length then
        match readSeparated? item separator next with
        | some (others, rest) => some (first :: others, rest)
        | none => some ([first], rest)
      else some ([first], rest)
termination_by text.length
decreasing_by exact _h.2

end TagQuery.Text
