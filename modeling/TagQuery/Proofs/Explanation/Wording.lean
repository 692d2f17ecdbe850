import TagQuery.Proofs.Explanation.Expected
import TagQuery.Proofs.Text.Quotation

/-!
# The wording of a rejection

* `Rejection.isPlain_message`: no wording shows a control character, whatever character of the query
  it is about.
* `Rejection.foundText_eq_endOfInput`: a character that was found is not mistaken for the end.
* `Grammar.explanation_wellFormed`: an explanation lists something, in ascending order, and names the
  character at its column.
-/

namespace TagQuery

open Text (IsPlain isPlain_append)

namespace Rejection

/-! ## Control characters -/

theorem isPlain_description (t : Terminal) : IsPlain t.description := by
  cases t with
  | symbol s => exact Text.isPlain_quote s.text
  | keyword k => exact Text.isPlain_quote k.text
  | character cls => cases cls <;> decide
  | endOfInput => decide

theorem isPlain_alternatives {choices : List String} (h : ∀ choice ∈ choices, IsPlain choice) :
    IsPlain (alternatives choices) := by
  unfold alternatives
  split
  next => decide
  next only => exact h only List.mem_cons_self
  next first second =>
    have hor : IsPlain " or " := by decide
    simp only [isPlain_append]
    exact ⟨⟨h first List.mem_cons_self, hor⟩, h second (List.mem_cons_of_mem _ List.mem_cons_self)⟩
  next first second third others =>
    generalize first :: second :: third :: others = choices at h
    have hcomma : IsPlain ", " := by decide
    have hor : IsPlain ", or " := by decide
    have hempty : IsPlain "" := by decide
    have hinit := Text.isPlain_intercalate hcomma fun choice hc =>
      h choice (List.dropLast_subset choices hc)
    have hlast : IsPlain (choices.getLastD "") :=
      List.forall_mem_cons.mpr ⟨hempty, h⟩ _ List.getLastD_mem_cons
    simp only [isPlain_append]
    exact ⟨⟨hinit, hor⟩, hlast⟩

theorem isPlain_foundText (found : Option Char) : IsPlain (foundText found) := by
  cases found with
  | none => decide
  | some c => exact Text.isPlain_quote (String.singleton c)

/-- A message shows no control character, even where the query holds one. -/
theorem isPlain_message (rejection : Rejection) : IsPlain rejection.message := by
  cases rejection with
  | unexpected column expected found =>
    have hchoices : IsPlain (alternatives (expected.map Terminal.description)) :=
      isPlain_alternatives fun choice hchoice => by
        obtain ⟨t, -, rfl⟩ := List.mem_map.mp hchoice
        exact isPlain_description t
    have hfound := isPlain_foundText found
    have hexpected : IsPlain "Expected " := by decide
    have hbut : IsPlain " but " := by decide
    have hend : IsPlain " found." := by decide
    unfold message
    simp only [isPlain_append]
    exact ⟨⟨⟨⟨hexpected, hchoices⟩, hbut⟩, hfound⟩, hend⟩
  | tooDeep column limit =>
    have hlimit := Text.isPlain_toString limit
    have hdeep : IsPlain "Query nests deeper than the limit of " := by decide
    have hend : IsPlain " levels" := by decide
    unfold message
    simp only [isPlain_append]
    exact ⟨⟨hdeep, hlimit⟩, hend⟩

/-! ## What was found -/

/-- The quotation of a character begins with a quotation mark, and the name of the end does not. -/
theorem foundText_eq_endOfInput {found : Option Char} :
    foundText found = "end of input" ↔ found = none := by
  cases found with
  | none => exact iff_of_true rfl rfl
  | some c =>
    refine iff_of_false (fun hquote => ?_) nofun
    have hhead := congrArg (fun text => text.toList.head?) hquote
    simp [foundText, Text.quote] at hhead

end Rejection

namespace Grammar

variable {g : Grammar} {text : String} {column : Nat} {expected : List Terminal}
  {found : Option Char}

/-- The descriptions are in the order of the list of all terminals. -/
theorem ascending_expected (h : g.parse text = .error (.unexpected column expected found)) :
    (expected.map Terminal.description).Pairwise (· < ·) := by
  obtain ⟨-, hexpected, -⟩ := unexpected_eq h
  rw [hexpected]
  exact Terminal.description_ascending.sublist (List.filter_sublist.map Terminal.description)

/-- Nothing is found at the end of the text alone. -/
theorem found_eq_none (h : g.parse text = .error (.unexpected column expected found)) :
    found = none ↔ column = text.length := by
  obtain ⟨-, -, hfound⟩ := unexpected_eq h
  have hle := column_le_length h
  rw [hfound, List.getElem?_eq_none_iff, String.length_toList]
  omega

/-- **An explanation is well formed.** It lists something, and its descriptions ascend strictly, so it
lists nothing twice. Its column lies in the text or at its end. It says that the end was found
exactly where the text ends, and elsewhere it quotes the character at the column. Quotations of
different texts differ, so it can be told which character that is. -/
theorem explanation_wellFormed (h : g.parse text = .error (.unexpected column expected found)) :
    (Rejection.unexpected column expected found).toParseError =
        ⟨"Expected " ++ Rejection.alternatives (expected.map Terminal.description) ++ " but " ++
          Rejection.foundText found ++ " found.", column⟩ ∧
      expected ≠ [] ∧
      (expected.map Terminal.description).Pairwise (· < ·) ∧
      column ≤ text.length ∧
      (Rejection.foundText found = "end of input" ↔ column = text.length) ∧
      (∀ c, text.toList[column]? = some c →
        Rejection.foundText found = Text.quote (String.singleton c)) ∧
      Function.Injective Text.quote := by
  obtain ⟨t, ht⟩ := exists_mem_expected h
  refine ⟨rfl, List.ne_nil_of_mem ht, ascending_expected h, column_le_length h, ?_, ?_,
    Text.quote_injective⟩
  · rw [Rejection.foundText_eq_endOfInput]
    exact found_eq_none h
  · intro c hc
    obtain ⟨-, -, hfound⟩ := unexpected_eq h
    rw [hfound, hc]
    rfl

/-- A control character is quoted by its code. -/
theorem explanation_wellFormed_control :
    (Grammar.mk 8).parse "k:a\x1b" = .error (.unexpected 3 [.keyword (.operator .and),
        .keyword (.operator .or), .keyword (.operator .xor), .character .space, .character .word,
        .endOfInput] (some '\x1b')) ∧
      Rejection.foundText (some '\x1b') = "\"\\x1B\"" := by
  have h : (Grammar.mk 8).parse "k:a\x1b" = .error (.unexpected 3 [.keyword (.operator .and),
      .keyword (.operator .or), .keyword (.operator .xor), .character .space, .character .word,
      .endOfInput] (some '\x1b')) := rfl
  obtain ⟨-, -, -, -, -, hfound, -⟩ := explanation_wellFormed h
  exact ⟨h, hfound '\x1b' rfl⟩

end Grammar

end TagQuery
