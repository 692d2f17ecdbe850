import TagQuery.Proofs.Language.Ending
import TagQuery.Proofs.Language.Progress
import TagQuery.Proofs.Language.Soundness

/-!
# How what was read ends

A value, an operand or a query that is read passes over a spelling of it, and this spelling ends so
that something else may stand after it (`EndsIn`).
-/

namespace TagQuery.Parser

variable {cursor next : Cursor} {limit level : Nat} {e : Expr}

theorem value_passes {text : String} (h : (value cursor).reply = .done text next) :
    ∃ read, cursor.Passes read next ∧ EndsIn IsValue read text next.rest := by
  obtain ⟨read, hrest, hends⟩ := (isValue_of_reply h).endsIn
  exact ⟨read, (composed_value.forward cursor text next h).passes hrest, hends⟩

/-- A query that is read passes over a spelling of it. -/
theorem query_passes {levels : Nat} (hlevels : level + levels = limit + 1)
    (h : (query levels cursor).reply = .done e next) :
    ∃ read, cursor.Passes read next ∧ EndsIn (IsQuery limit level) read e next.rest := by
  obtain ⟨read, hrest, hends⟩ := (isQuery_of_reply hlevels h).endsIn
  exact ⟨read, (forward_query levels cursor e next h).passes hrest, hends⟩

/-- The first operand of a query that is read passes over a spelling of it. -/
theorem operand_passes {below : Nat} (hlevels : level + (below + 1) = limit + 1)
    (h : (tagOrGroup (query below) cursor).reply = .done e next) :
    ∃ read, cursor.Passes read next ∧ EndsIn (IsOperand limit level) read e next.rest := by
  have hoperand : IsOperand limit level cursor.rest e next.rest :=
    isOperand_of_reply_tagOrGroup (by omega) (fun hquery => isQuery_of_reply (by omega) hquery) h
  obtain ⟨read, hrest, hends⟩ := hoperand.endsIn
  have hreaches := (consumes_tagOrGroup (forward_query below)).forward cursor e next h
  exact ⟨read, hreaches.passes hrest, hends⟩

end TagQuery.Parser
