import TagQuery.Text.Separated

/-!
# Runs and separated items

* `Text.fromUTF8?_toUTF8`: a text is read from its bytes.
* `Text.takeWhile_run`, `Text.dropWhile_run`: a run of characters ends where none of its kind
  follows.
* `Text.readSeparated?_intercalate`: items that are read one by one are read together, if the
  separator stands between them and something else at the end.
-/

namespace TagQuery.Text

theorem fromUTF8?_toUTF8 (text : String) : String.fromUTF8? text.toUTF8 = some text :=
  dif_pos text.isValidUTF8

/-! ## Runs -/

section Runs

variable {p : Char → Bool} {run rest : List Char}

theorem takeWhile_run (hrun : ∀ c ∈ run, p c) (hrest : ∀ c ∈ rest.head?, ¬p c) :
    (run ++ rest).takeWhile p = run := by
  rw [List.takeWhile_append_of_pos hrun]
  cases rest with
  | nil => simp
  | cons c rest => simp [hrest c rfl]

theorem dropWhile_run (hrun : ∀ c ∈ run, p c) (hrest : ∀ c ∈ rest.head?, ¬p c) :
    (run ++ rest).dropWhile p = rest := by
  rw [List.dropWhile_append_of_pos hrun]
  cases rest with
  | nil => rfl
  | cons c rest => simp [hrest c rfl]

end Runs

/-! ## Separated items -/

variable {α : Type} {item : List Char → Option (α × List Char)} {separator closing c : Char}
  {text next rest : List Char} {a : α} {others : List α}

theorem readSeparated?_none (h : item text = none) : readSeparated? item separator text = none := by
  rw [readSeparated?, h]

theorem readSeparated?_last (h : item text = some (a, c :: rest)) (hc : c ≠ separator) :
    readSeparated? item separator text = some ([a], c :: rest) := by
  rw [readSeparated?, h]
  simp [hc]

theorem readSeparated?_cons (h : item text = some (a, separator :: next))
    (hlt : next.length < text.length)
    (hnext : readSeparated? item separator next = some (others, rest)) :
    readSeparated? item separator text = some (a :: others, rest) := by
  rw [readSeparated?, h]
  simp [hlt, hnext]

/-- Items are read together if each of them is read wherever the separator or the closing character
follows it. -/
theorem readSeparated?_intercalate {write : α → List Char} (hclosing : closing ≠ separator)
    (first : α) (others : List α)
    (hitem : ∀ a ∈ first :: others, ∀ c ∈ [separator, closing], ∀ rest,
      item (write a ++ c :: rest) = some (a, c :: rest)) (rest : List Char) :
    readSeparated? item separator
      ([separator].intercalate ((first :: others).map write) ++ closing :: rest) =
        some (first :: others, closing :: rest) := by
  induction others generalizing first with
  | nil =>
    have hfirst := hitem first List.mem_cons_self closing (by simp) rest
    simpa using readSeparated?_last hfirst hclosing
  | cons second others ih =>
    have hothers := ih second fun a ha => hitem a (List.mem_cons_of_mem _ ha)
    have hfirst := hitem first List.mem_cons_self separator (by simp)
      ([separator].intercalate ((second :: others).map write) ++ closing :: rest)
    have htext : [separator].intercalate ((first :: second :: others).map write) ++
        closing :: rest = write first ++ separator ::
          ([separator].intercalate ((second :: others).map write) ++ closing :: rest) := by
      simp [List.intercalate_cons_cons]
    rw [htext]
    refine readSeparated?_cons hfirst ?_ hothers
    simp only [List.length_append, List.length_cons]
    omega

end TagQuery.Text
