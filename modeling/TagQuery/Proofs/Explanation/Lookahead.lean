import TagQuery.Proofs.Explanation.Expected
import TagQuery.Proofs.Parser.Tracks

/-!
# How far ahead an explanation looks

No terminal is wider than three characters, and nothing was looked for behind the column of an
explanation. So an explanation depends on three characters from its column on at most.

* `Terminal.strip?_eq_none_congr`: texts that agree on as many characters as a terminal is wide miss
  it alike.
* `Parser.wholeQuery_of_take`: a mismatch is the same, trace included, on every text that agrees up
  to three characters from the furthest column on.
* `Grammar.parse_of_take_unexpected`: and so is the explanation.
-/

namespace TagQuery

namespace Terminal

theorem width_le (t : Terminal) : t.width ≤ 3 := by
  cases t with
  | symbol s => rcases s with kind | _ | _ | _ | _ | _ <;> first | decide | (cases kind <;> decide)
  | keyword k => rcases k with op | _ <;> first | decide | (cases op <;> decide)
  | character cls => exact Nat.le_add_left 1 2
  | endOfInput => decide

/-- Texts that agree on as many characters as the terminal is wide miss it alike. One character at
least has to agree, to tell a text that goes on from one that ends. -/
theorem strip?_eq_none_congr {t : Terminal} {text other : List Char} {count : Nat}
    (h : text.take count = other.take count) (hwidth : t.width ≤ count) (hcount : 0 < count) :
    t.strip? text = none ↔ t.strip? other = none := by
  have htake : text.take t.width = other.take t.width := by
    have hshorter := congrArg (List.take t.width) h
    rwa [List.take_take, List.take_take, Nat.min_eq_left hwidth] at hshorter
  have hhead : text.head? = other.head? := by
    have hfirst := congrArg List.head? h
    simpa [List.head?_take, Nat.pos_iff_ne_zero.mp hcount] using hfirst
  cases t with
  | symbol s => simp [strip?, htake]
  | keyword k => simp [strip?, htake]
  | character cls => simp [strip?_character, hhead]
  | endOfInput =>
    have hempty : text = [] ↔ other = [] := by
      rw [← List.head?_eq_none_iff, ← List.head?_eq_none_iff, hhead]
    simp [strip?_endOfInput, hempty]

end Terminal

namespace Parser

/-- Texts that agree up to a column agree on the last characters before it, wherever these begin. -/
private theorem take_drop_congr {text other : List Char} {start column count : Nat}
    (h : text.take (column + count) = other.take (column + count)) (hle : start ≤ column) :
    (text.drop start).take count = (other.drop start).take count := by
  have hshorter := congrArg (List.take (start + count)) h
  have hmin : min (start + count) (column + count) = start + count := by omega
  rw [List.take_take, List.take_take, hmin] at hshorter
  rw [List.take_drop, List.take_drop, hshorter]

/-- A mismatch is the same on a text that agrees up to three characters from the furthest column
on. -/
theorem wholeQuery_of_take {limit : Nat} {text other : List Char}
    (hmismatch : (wholeQuery limit (.ofColumn text 0)).reply = .mismatch)
    (hsame : text.take ((wholeQuery limit (.ofColumn text 0)).trace.furthest + 3) =
      other.take ((wholeQuery limit (.ofColumn text 0)).trace.furthest + 3)) :
    wholeQuery limit (.ofColumn other 0) = wholeQuery limit (.ofColumn text 0) := by
  generalize hcolumn : (wholeQuery limit (.ofColumn text 0)).trace.furthest = column at hsame
  have hmissed : ∀ missed t, (missed, t) ∈ (wholeQuery limit (.ofColumn text 0)).trace.toList →
      missed ≤ (text.take (column + 3)).length ∧ t.strip? (other.drop missed) = none := by
    intro missed t hmem
    have hle : missed ≤ column := hcolumn ▸ Trace.le_furthest hmem
    refine ⟨?_, ?_⟩
    · have hstart : (missed, t) ∈
          (wholeQuery limit (Cursor.start (String.ofList text))).trace.toList := by
        rwa [Cursor.start_eq_ofColumn, String.toList_ofList]
      have hlength := wholeQuery_column_le hstart
      rw [String.length_ofList] at hlength
      rw [List.length_take]
      omega
    · have hwindow := take_drop_congr hsame hle
      rw [← Terminal.strip?_eq_none_congr hwindow t.width_le (by decide)]
      exact wholeQuery_missed hmem
  have htext := List.take_append_drop (column + 3) text
  have hother := List.take_append_drop (column + 3) other
  rw [← hsame] at hother
  generalize text.take (column + 3) = common at hmissed htext hother
  generalize text.drop (column + 3) = tail at htext
  generalize other.drop (column + 3) = rest at hother
  subst htext hother
  exact wholeQuery_tracks hmismatch hmissed

end Parser

/-- Beside the trace, only the character at the furthest column enters an explanation. -/
theorem Rejection.ofTrace_eq_of_getElem? {text other : List Char} {trace : Trace}
    (h : text[trace.furthest]? = other[trace.furthest]?) :
    ofTrace text trace = ofTrace other trace := by
  simp only [ofTrace, h]

namespace Grammar

variable {g : Grammar} {u v : String} {column : Nat} {expected : List Terminal}
  {found : Option Char}

/-- **An explanation looks three characters ahead.** If a text is rejected for its syntax at a
column, then so is every text that agrees with it up to three characters from this column on, and
for the same reason. -/
theorem parse_of_take_unexpected (h : g.parse u = .error (.unexpected column expected found))
    (hsame : u.toList.take (column + 3) = v.toList.take (column + 3)) :
    g.parse v = .error (.unexpected column expected found) := by
  obtain ⟨hmismatch, htrace⟩ := parse_eq_unexpected.mp h
  obtain ⟨rfl, -⟩ := mem_expected h
  have houtcome : Parser.wholeQuery g.maxDepth (Cursor.start v) =
      Parser.wholeQuery g.maxDepth (Cursor.start u) := Parser.wholeQuery_of_take hmismatch hsame
  rw [← houtcome] at hmismatch
  refine parse_eq_unexpected.mpr ⟨hmismatch, ?_⟩
  rw [houtcome, ← htrace]
  have hfound := congrArg
    (·[(Parser.wholeQuery g.maxDepth (Cursor.start u)).trace.furthest]?) hsame
  exact (Rejection.ofTrace_eq_of_getElem? (by simpa using hfound)).symm

/-- Three characters are looked at here, `x y`. What comes after them may open a value that is never
closed. -/
theorem parse_of_take_unexpected_group :
    (Grammar.mk 8).parse "(k:a) x y z" =
        .error (.unexpected 6 [.keyword (.operator .and), .keyword (.operator .or),
          .keyword (.operator .xor), .character .space] (some 'x')) ∧
      (Grammar.mk 8).parse "(k:a) x yk:\"" =
        .error (.unexpected 6 [.keyword (.operator .and), .keyword (.operator .or),
          .keyword (.operator .xor), .character .space] (some 'x')) := by
  have h : (Grammar.mk 8).parse "(k:a) x y z" = .error (.unexpected 6 [.keyword (.operator .and),
      .keyword (.operator .or), .keyword (.operator .xor), .character .space] (some 'x')) := rfl
  exact ⟨h, parse_of_take_unexpected h (by decide)⟩

end Grammar

end TagQuery
