import TagQuery.Proofs.Parser.Alike

/-!
# Traces further on

* `Trace.shift`: the same terminals, each so many columns further on.
* `Rejection.ofTrace_shift`: what the trace explains is the same too, in a text that lies further on
  by as much.
-/

namespace TagQuery

namespace Trace

/-- Every column of a trace, so many further on. -/
def shift (columns : Nat) : Trace → Trace
  | empty => empty
  | missed column terminal => missed (columns + column) terminal
  | append first second => append (first.shift columns) (second.shift columns)

variable {trace : Trace} {column : Nat} {t : Terminal}

theorem toList_shift (columns : Nat) (trace : Trace) :
    (trace.shift columns).toList = trace.toList.map fun (column, t) => (columns + column, t) := by
  induction trace with
  | empty => rfl
  | missed column t => rfl
  | append first second ihf ihs => simp [shift, toList, ihf, ihs]

@[simp] theorem shift_zero (trace : Trace) : trace.shift 0 = trace := by
  induction trace with
  | empty => rfl
  | missed column t => simp [shift]
  | append first second ihf ihs => rw [shift, ihf, ihs]

theorem mem_shift {columns : Nat} :
    (columns + column, t) ∈ (trace.shift columns).toList ↔ (column, t) ∈ trace.toList := by
  simp [toList_shift]

/-- The furthest column is shifted too, if anything was missed at all. -/
theorem furthest_shift {columns : Nat} (h : (column, t) ∈ trace.toList) :
    (trace.shift columns).furthest = columns + trace.furthest := by
  have hshifted : (columns + column, t) ∈ (trace.shift columns).toList := mem_shift.mpr h
  obtain ⟨_, hlast⟩ := exists_mem_furthest_of_mem h
  obtain ⟨_, hfar⟩ := exists_mem_furthest_of_mem hshifted
  have hle : columns + trace.furthest ≤ (trace.shift columns).furthest :=
    le_furthest (mem_shift.mpr hlast)
  rw [toList_shift, List.mem_map] at hfar
  obtain ⟨⟨found, _⟩, hmem, hentry⟩ := hfar
  obtain ⟨hcolumn, -⟩ := Prod.mk.inj hentry
  have hfound := le_furthest hmem
  omega

end Trace

/-- What a trace says about a mismatch in a text, it says as well further on, behind another
text. -/
theorem Rejection.ofTrace_shift {trace : Trace} {column : Nat} {t : Terminal}
    (h : (column, t) ∈ trace.toList) (front text : List Char) :
    ∃ found expected, ofTrace text trace = .unexpected trace.furthest expected found ∧
      ofTrace (front ++ text) (trace.shift front.length) =
        .unexpected (front.length + trace.furthest) expected found := by
  refine ⟨_, _, rfl, ?_⟩
  have hmissed : ∀ t, t ∈ (trace.shift front.length).missedAt (front.length + trace.furthest) ↔
      t ∈ trace.missedAt trace.furthest := fun t => by
    rw [Trace.mem_missedAt, Trace.mem_missedAt, Trace.mem_shift]
  simp [ofTrace, Trace.furthest_shift h, hmissed, List.getElem?_append_right]

end TagQuery
