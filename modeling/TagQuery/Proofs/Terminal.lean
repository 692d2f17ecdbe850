import TagQuery.Language.Derivation

/-!
# Stripping a terminal

* `Terminal.strip?_eq_some_iff`: `strip?` takes off exactly a text that the terminal stands for, and
  the end of the query only where nothing is left.
* `Terminal.length_of_matches`: how many characters such a text has. `Terminal.eq_of_matches`: there
  is one keyword at a place at most.
  `Terminal.isAlphanum_of_matches`: a keyword is made of letters, like a bare value.
* `Terminal.strip?_symbol_of_head`, `Terminal.strip?_keyword_of_head`: the first character of a text
  is enough to rule a symbol or a keyword out. So two operators never stand at the same place
  (`Terminal.strip?_operator_of_ne`).
* `Terminal.exists_canBegin_of_strip?`, `Terminal.strip?_of_not_canBegin`: the same for any terminal,
  by the characters that it can begin with.
-/

namespace TagQuery.Terminal

theorem length_of_matches {t : Terminal} {word : List Char} (h : t.Matches word) :
    word.length = t.width := by
  cases t with
  | symbol s => rw [h]; exact String.length_toList
  | keyword k =>
    have hl := congrArg List.length h
    rw [List.length_map, String.length_toList] at hl
    exact hl
  | character cls => obtain ⟨c, -, rfl⟩ := h; rfl
  | endOfInput => rw [h]; rfl

/-- Every terminal stands for some text, the end of the query for the empty one. -/
theorem exists_matches (t : Terminal) : ∃ word, t.Matches word := by
  cases t with
  | symbol s => exact ⟨_, rfl⟩
  | keyword k =>
    refine ⟨k.text.toList, ?_⟩
    rcases k with op | _
    · cases op <;> rfl
    · rfl
  | character cls => cases cls with
    | word => exact ⟨['a'], 'a', by decide, rfl⟩
    | unquoted => exact ⟨['a'], 'a', by decide, rfl⟩
    | pattern => exact ⟨['a'], 'a', by decide, rfl⟩
    | space => exact ⟨[' '], ' ', by decide, rfl⟩
  | endOfInput => exact ⟨[], rfl⟩

private theorem strip?_symbol {s : Symbol} {text rest : List Char} :
    (symbol s).strip? text = some rest ↔ text = s.text.toList ++ rest := by
  have hw : (symbol s).width = s.text.toList.length := String.length_toList.symm
  simp only [strip?, Option.ite_none_right_eq_some, Option.some.injEq, hw]
  constructor
  · rintro ⟨htake, hdrop⟩
    have h := List.take_append_drop s.text.toList.length text
    rw [htake, hdrop] at h
    exact h.symm
  · rintro rfl
    exact ⟨List.take_left, List.drop_left⟩

private theorem strip?_keyword {k : Keyword} {text rest : List Char} :
    (keyword k).strip? text = some rest ↔
      ∃ word, (keyword k).Matches word ∧ text = word ++ rest := by
  simp only [strip?, Option.ite_none_right_eq_some, Option.some.injEq]
  constructor
  · rintro ⟨hword, hrest⟩
    exact ⟨_, hword, by rw [← hrest, List.take_append_drop]⟩
  · rintro ⟨word, hword, rfl⟩
    rw [← length_of_matches hword, List.take_left, List.drop_left]
    exact ⟨hword, rfl⟩

/-- A terminal is stripped off exactly where the text begins with a text it stands for. -/
theorem strip?_eq_some_iff {t : Terminal} {text rest : List Char} :
    t.strip? text = some rest ↔
      ∃ word, t.Matches word ∧ text = word ++ rest ∧ (t = .endOfInput → rest = []) := by
  cases t with
  | symbol s => simp [strip?_symbol, Matches]
  | keyword k => simp [strip?_keyword]
  | character cls =>
    cases text with
    | nil =>
      simp only [strip?, reduceCtorEq, false_iff]
      rintro ⟨_, ⟨c, -, rfl⟩, htext, -⟩
      cases htext
    | cons c text =>
      simp only [strip?, Option.ite_none_right_eq_some, Option.some.injEq, Matches, reduceCtorEq,
        false_implies, and_true]
      constructor
      · rintro ⟨hc, rfl⟩
        exact ⟨[c], ⟨c, hc, rfl⟩, rfl⟩
      · rintro ⟨_, ⟨c', hc, rfl⟩, htext⟩
        obtain ⟨rfl, rfl⟩ := List.cons.inj htext
        exact ⟨hc, rfl⟩
  | endOfInput =>
    cases text with
    | nil => simp [strip?, Matches, eq_comm]
    | cons c text =>
      simp only [strip?, List.isEmpty_cons, Bool.false_eq_true, ↓reduceIte, reduceCtorEq, false_iff]
      rintro ⟨word, rfl, htext, hrest⟩
      rw [hrest trivial] at htext
      cases htext

theorem strip?_character {cls : CharClass} {text : List Char} :
    (character cls).strip? text = none ↔ ∀ c ∈ text.head?, ¬cls.contains c := by
  cases text <;> simp [strip?]

theorem strip?_endOfInput {text : List Char} : endOfInput.strip? text = none ↔ text ≠ [] := by
  cases text <;> simp [strip?]

theorem exists_cons_symbol (s : Symbol) : ∃ c tail, s.text.toList = c :: tail := by
  rcases s with kind | _ | _ | _ | _ | _
  · cases kind <;> exact ⟨_, _, rfl⟩
  all_goals exact ⟨_, _, rfl⟩

/-- A text that begins otherwise than a symbol does not begin with it. -/
theorem strip?_symbol_of_head {s : Symbol} {text : List Char}
    (h : text.head? ≠ s.text.toList.head?) : (symbol s).strip? text = none := by
  refine Option.eq_none_iff_forall_ne_some.mpr fun rest hrest => h ?_
  obtain ⟨c, tail, htail⟩ := exists_cons_symbol s
  rw [strip?_symbol.mp hrest, htail]
  rfl

/-- A keyword begins with its first letter, in one of its cases. -/
theorem exists_cons_of_matches {k : Keyword} {word : List Char} (h : (keyword k).Matches word) :
    ∃ c tail, word = c :: tail ∧ some c.toUpper = k.text.toList.head? := by
  have hupper : word.map Char.toUpper = k.text.toList := h
  cases word with
  | nil => rcases k with op | _ <;> first | cases hupper | (cases op <;> cases hupper)
  | cons c tail => exact ⟨c, tail, rfl, by rw [← hupper]; rfl⟩

/-- Each keyword begins with a letter of its own. -/
theorem keyword_eq_of_head {k k' : Keyword} (h : k.text.toList.head? = k'.text.toList.head?) :
    k = k' := by
  rcases k with op | _ <;> rcases k' with op' | _
  · cases op <;> cases op' <;> first | rfl | exact absurd h (by decide)
  · cases op <;> exact absurd h (by decide)
  · cases op' <;> exact absurd h (by decide)
  · rfl

/-- Keywords at the same place are the same word. -/
theorem eq_of_matches {k k' : Keyword} {word word' rest rest' : List Char}
    (h : (keyword k).Matches word) (h' : (keyword k').Matches word')
    (htext : word ++ rest = word' ++ rest') : word = word' ∧ rest = rest' := by
  obtain ⟨c, letters, rfl, hupper⟩ := exists_cons_of_matches h
  obtain ⟨c', letters', rfl, hupper'⟩ := exists_cons_of_matches h'
  obtain ⟨rfl, -⟩ := List.cons.inj htext
  obtain rfl := keyword_eq_of_head (hupper.symm.trans hupper')
  exact List.append_inj htext (by rw [length_of_matches h, length_of_matches h'])

/-- A keyword is letters, in whatever case. -/
theorem isAlphanum_of_matches {k : Keyword} {word : List Char} (h : (keyword k).Matches word) :
    ∀ c ∈ word, c.isAlphanum := by
  intro c hc
  have hupper : c.toUpper ∈ k.text.toList := by
    rw [← show word.map Char.toUpper = k.text.toList from h]
    exact List.mem_map_of_mem hc
  have hletters : k.text.toList.all Char.isAlphanum = true := by
    rcases k with op | _
    · cases op <;> decide
    · decide
  have hletter := List.all_eq_true.mp hletters _ hupper
  unfold Char.toUpper at hletter
  split at hletter
  next hrange =>
    have hlower : c.isLower = true :=
      Bool.and_eq_true_iff.mpr ⟨decide_eq_true hrange.1, decide_eq_true hrange.2⟩
    show (c.isUpper || c.isLower || c.isDigit) = true
    rw [hlower, Bool.or_true, Bool.true_or]
  next => exact hletter

/-- A text that begins otherwise than a keyword, in any letter case, does not begin with it. -/
theorem strip?_keyword_of_head {k : Keyword} {text : List Char}
    (h : text.head?.map Char.toUpper ≠ k.text.toList.head?) : (keyword k).strip? text = none := by
  refine Option.eq_none_iff_forall_ne_some.mpr fun rest hrest => h ?_
  obtain ⟨word, hword, rfl⟩ := strip?_keyword.mp hrest
  obtain ⟨c, tail, rfl, hupper⟩ := exists_cons_of_matches hword
  exact hupper

/-- Where one operator stands, no other does. -/
theorem strip?_operator_of_ne {op other : Operator} {text rest : List Char}
    (h : (keyword (.operator op)).strip? text = some rest) (hne : other ≠ op) :
    (keyword (.operator other)).strip? text = none := by
  obtain ⟨word, hword, rfl⟩ := strip?_keyword.mp h
  obtain ⟨c, tail, rfl, hupper⟩ := exists_cons_of_matches hword
  refine strip?_keyword_of_head fun hother => hne ?_
  have hkeyword : Keyword.operator op = .operator other :=
    keyword_eq_of_head (hupper.symm.trans hother)
  exact (Keyword.operator.inj hkeyword).symm

/-! ## First characters -/

theorem canBegin_symbol {s : Symbol} {c : Char} :
    (symbol s).CanBegin c ↔ s.text.toList.head? = some c := by
  obtain ⟨d, tail, htail⟩ := exists_cons_symbol s
  simp [CanBegin, Matches, htail, eq_comm]

theorem toUpper_of_canBegin {k : Keyword} {c : Char} (h : (keyword k).CanBegin c) :
    some c.toUpper = k.text.toList.head? := by
  obtain ⟨word, hword⟩ := h
  obtain ⟨d, tail, hcons, hupper⟩ := exists_cons_of_matches hword
  cases hcons
  exact hupper

theorem canBegin_character {cls : CharClass} {c : Char} :
    (character cls).CanBegin c ↔ cls.contains c := by
  constructor
  · rintro ⟨word, d, hd, hcons⟩
    rwa [(List.cons.inj hcons).1]
  · intro hc
    exact ⟨[], c, hc, rfl⟩

theorem ne_nil_of_matches {t : Terminal} (inside : t ≠ .endOfInput) {word : List Char}
    (h : t.Matches word) : word ≠ [] := by
  rintro rfl
  cases t with
  | symbol s =>
    obtain ⟨c, tail, htail⟩ := exists_cons_symbol s
    exact absurd (h.trans htail).symm (List.cons_ne_nil c tail)
  | keyword k =>
    obtain ⟨c, tail, hcons, -⟩ := exists_cons_of_matches h
    cases hcons
  | character cls =>
    obtain ⟨c, -, hcons⟩ := h
    cases hcons
  | endOfInput => exact inside rfl

/-- What is stripped off begins with a first character of the terminal. -/
theorem exists_canBegin_of_strip? {t : Terminal} (inside : t ≠ .endOfInput) {text rest : List Char}
    (h : t.strip? text = some rest) : ∃ c ∈ text.head?, t.CanBegin c := by
  obtain ⟨word, hword, rfl, -⟩ := strip?_eq_some_iff.mp h
  cases word with
  | nil => exact absurd rfl (ne_nil_of_matches inside hword)
  | cons c word => exact ⟨c, rfl, word, hword⟩

/-- A text that does not begin with a first character of the terminal does not begin with it. -/
theorem strip?_of_not_canBegin {t : Terminal} {text : List Char}
    (h : ∀ c ∈ text.head?, ¬t.CanBegin c) (hend : t = .endOfInput → text ≠ []) :
    t.strip? text = none := by
  by_cases inside : t = .endOfInput
  · rw [inside]
    exact strip?_endOfInput.mpr (hend inside)
  · refine Option.eq_none_iff_forall_ne_some.mpr fun rest hrest => ?_
    obtain ⟨c, hc, hbegins⟩ := exists_canBegin_of_strip? inside hrest
    exact h c hc hbegins

end TagQuery.Terminal
