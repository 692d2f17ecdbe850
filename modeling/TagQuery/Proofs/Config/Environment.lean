import Mathlib.Algebra.Group.Nat.Defs
import TagQuery.Config
import TagQuery.Proofs.Text.Decimal

/-!
# The limit in the environment

* `Config.readUnsigned_of_asksFor`, `Config.exists_asksFor_of_readUnsigned`: what is read of a
  setting is the number that it asks for.
* `Config.ofEnvironment_exact`: a setting that asks for a number below the bound gives it, and any
  other setting gives the default and one warning.
-/

namespace TagQuery.Config

open Text.Decimal (Fault readUnsigned)

variable {raw : String} {bound n : Nat}

/-! ## Numbers amid white space -/

theorem readUnsigned_of_asksFor (h : AsksFor raw n) (hbound : 0 < bound) :
    readUnsigned bound (Text.trim raw.toList) = if n < bound then .ok n else .error .tooLarge := by
  obtain ⟨before, numeral, after, hraw, hnumeral, hbefore, hafter⟩ := h
  obtain ⟨hne, hinside⟩ := Text.Decimal.not_isBlank_of_isNumeral hnumeral
  rw [hraw, Text.trim_eq hbefore hafter hne hinside]
  exact Text.Decimal.readUnsigned_of_isNumeral hnumeral hbound

/-- Only a setting that asks for a number is read as one. -/
theorem exists_asksFor_of_readUnsigned
    (h : readUnsigned bound (Text.trim raw.toList) = .ok n) : ∃ m, AsksFor raw m := by
  obtain ⟨m, hnumeral⟩ := Text.Decimal.exists_isNumeral_of_readUnsigned h
  obtain ⟨before, after, hraw, hbefore, hafter⟩ := Text.exists_eq_trim raw.toList
  exact ⟨m, before, _, after, hraw, hnumeral, hbefore, hafter⟩

/-! ## Settings -/

theorem ofEnvironment_toUTF8 (raw : String) :
    ofEnvironment (some raw.toUTF8) = ofSetting raw := by
  rw [ofEnvironment, Option.bind_some, Text.fromUTF8?_toUTF8]

theorem ofSetting_of_ok (h : readUnsigned numberBound (Text.trim raw.toList) = .ok n) :
    ofSetting raw = ⟨{ maxDepth := n }, []⟩ := by
  rw [ofSetting, h]

theorem ofSetting_of_error {fault : Fault}
    (h : readUnsigned numberBound (Text.trim raw.toList) = .error fault) :
    ofSetting raw = ⟨{}, [⟨.warn, warning raw fault⟩]⟩ := by
  rw [ofSetting, h]

/-- A warning quotes the setting as it stands, white space included. -/
theorem warning_eq (raw : String) (fault : Fault) :
    warning raw fault = "ignoring ANQ_MAX_DEPTH=" ++ Text.visible raw ++ ": " ++ fault.text ++
      "; using max_depth=256" := by
  have hfront : "ignoring " ++ variableName ++ "=" = "ignoring ANQ_MAX_DEPTH=" := by decide
  have hback : "; using max_depth=" ++ toString ({} : Config).maxDepth =
      "; using max_depth=256" := by decide
  unfold warning
  rw [hfront, ← hback, String.append_assoc]

/-- **The limit in the environment is read exactly.** A setting that asks for a number below the
bound gives this number, with as many digits as it likes, and nothing is logged. One that asks for a
larger number, or for none, gives the default limit and a single warning that quotes it. -/
theorem ofEnvironment_exact (raw : String) :
    (∀ n, AsksFor raw n → n < 2 ^ 64 →
      ofEnvironment (some raw.toUTF8) = ⟨{ maxDepth := n }, []⟩) ∧
    (∀ n, AsksFor raw n → 2 ^ 64 ≤ n →
      ofEnvironment (some raw.toUTF8) = ⟨{ maxDepth := 256 }, [⟨.warn,
        "ignoring ANQ_MAX_DEPTH=" ++ Text.visible raw ++ ": " ++ Fault.tooLarge.text ++
          "; using max_depth=256"⟩]⟩) ∧
    ((∀ n, ¬AsksFor raw n) → ∃ fault : Fault,
      ofEnvironment (some raw.toUTF8) = ⟨{ maxDepth := 256 }, [⟨.warn,
        "ignoring ANQ_MAX_DEPTH=" ++ Text.visible raw ++ ": " ++ fault.text ++
          "; using max_depth=256"⟩]⟩) := by
  have hbound : numberBound = 2 ^ 64 := rfl
  have hread : ∀ {n}, AsksFor raw n → readUnsigned numberBound (Text.trim raw.toList) =
      if n < 2 ^ 64 then .ok n else .error .tooLarge := fun hasks =>
    hbound ▸ readUnsigned_of_asksFor hasks (Nat.two_pow_pos 64)
  simp only [ofEnvironment_toUTF8, ← warning_eq]
  refine ⟨fun n hasks hlt => ?_, fun n hasks hle => ?_, fun hnone => ?_⟩
  · exact ofSetting_of_ok (by rw [hread hasks, if_pos hlt])
  · exact ofSetting_of_error (by rw [hread hasks, if_neg (Nat.not_lt_of_le hle)])
  · cases hread : readUnsigned numberBound (Text.trim raw.toList) with
    | ok n =>
      obtain ⟨m, hasks⟩ := exists_asksFor_of_readUnsigned hread
      exact absurd hasks (hnone m)
    | error fault => exact ⟨fault, ofSetting_of_error hread⟩

example : ofSetting "\u00a0+00018446744073709551615\n" =
    ⟨{ maxDepth := 18446744073709551615 }, []⟩ := by
  rfl

example : (ofSetting "18446744073709551616").value = {} := by
  rfl

end TagQuery.Config
