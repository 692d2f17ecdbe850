import TagQuery.Config.Run
import TagQuery.Proofs.Toml.Entry
import TagQuery.Proofs.Toml.Integer

/-!
# Saved settings are loaded again

* `Config.ofToml?_toToml`: the document that settings are saved as gives these settings.
* `Config.save_eq_ok`: when settings can be saved, and what is at the path then.
* `Config.State.place_step`, `Config.State.place_after`: a step, and so a list of steps, leaves what
  is at the path as it is, unless one of them replaces it.
* `Config.save_in_run`: within any run, settings are either saved, and loaded again until something
  replaces them, or nothing changes.
-/

namespace TagQuery.Config

/-! ## The document -/

theorem toToml_eq (config : Config) : config.toToml = String.ofList (maxDepthKey.toList ++
    ' ' :: '=' :: ' ' :: (Nat.toDigits 10 config.maxDepth ++ ['\n'])) := by
  refine String.toList_inj.mp ?_
  simp [toToml]

/-- Settings are read from the document that they are saved as. -/
theorem ofToml?_toToml {config : Config} (h : config.maxDepth < savedBound) :
    ofToml? config.toToml = some config := by
  have hkey : ∀ c ∈ maxDepthKey.toList, Toml.isBareKeyChar c := List.all_eq_true.mp (by decide)
  have hblank : ∀ c ∈ (Nat.toDigits 10 config.maxDepth ++ ['\n']).head?, Toml.isBlank c = false :=
    Toml.head_of_bare Nat.toDigits_ne_nil fun c hc => by
      have hdigit := Toml.isDigit_of_mem_toDigits c hc
      exact Toml.isBlank_of_isBareKeyChar (by simp [Toml.isBareKeyChar, Char.isAlphanum, hdigit])
  have hvalue : Toml.readValue? (Toml.nestingLimit - 1)
      (Nat.toDigits 10 config.maxDepth ++ ['\n']) =
        some (.integer (Int.ofNat config.maxDepth), ['\n']) :=
    Toml.readValue?_toDigits _ h fun c hc => by
      cases hc
      decide
  have hdocument := Toml.parse?_entry (by decide) hkey hblank hvalue
  rw [ofToml?, toToml_eq, hdocument]
  simp

/-! ## One file -/

variable {config : Config} {place saved : Place}

/-- Settings are saved where no directory is, if the document can hold the limit. -/
theorem save_eq_ok : config.save place = .ok saved ↔
    place ≠ .directory ∧ config.maxDepth < savedBound ∧ saved = .file config.toToml.toUTF8 := by
  unfold save
  split
  next hle => simp [Nat.not_lt.mpr hle]
  next hlt => cases place <;> simp [Nat.lt_of_not_le hlt, eq_comm]

/-- What was saved is loaded again. -/
theorem load_of_save (h : config.save place = .ok saved) : load saved = .ok config := by
  obtain ⟨-, hlt, rfl⟩ := save_eq_ok.mp h
  simp only [load, Text.fromUTF8?_toUTF8, ofToml?_toToml hlt]

/-! ## Runs -/

namespace State

variable {state : State} {step : Step}

theorem run_append (state : State) (steps later : List Step) :
    state.run (steps ++ later) = state.run steps ++ (state.after steps).run later := by
  induction steps generalizing state with
  | nil => rfl
  | cons step steps ih => rw [List.cons_append, run, ih, run, List.cons_append]; rfl

theorem step_save_of_ok (h : state.config.save state.place = .ok saved) :
    state.step .save = ({ state with place := saved }, .done) := by
  simp [State.step, h]

/-- Settings that cannot be saved change nothing. -/
theorem step_save_of_error {error : Error} (h : state.config.save state.place = .error error) :
    state.step .save = (state, .failed error) := by
  simp [State.step, h]

/-- Settings that cannot be loaded change nothing. -/
theorem step_load_of_error {error : Error} (h : (state.step .load).2 = .failed error) :
    (state.step .load).1 = state := by
  cases hload : load state.place with
  | ok config => simp [State.step, hload] at h
  | error error => simp [State.step, hload]

/-- A step that replaces nothing leaves what is at the path as it is. -/
theorem place_step (h : ¬step.Replaces (state.step step).2) :
    (state.step step).1.place = state.place := by
  cases step with
  | write | makeDirectory | remove => exact absurd trivial h
  | load =>
    cases hload : load state.place <;> simp [State.step, hload]
  | save =>
    cases hsave : state.config.save state.place with
    | ok saved =>
      rw [step_save_of_ok hsave] at h
      exact absurd trivial h
    | error error => rw [step_save_of_error hsave]
  | reset | setMaxDepth | environment | read | parse => rfl

theorem place_after {steps : List Step}
    (h : ∀ entry ∈ steps.zip (state.run steps), ¬entry.1.Replaces entry.2.2) :
    (state.after steps).place = state.place := by
  induction steps generalizing state with
  | nil => rfl
  | cons step steps ih =>
    rw [run, List.zip_cons_cons, List.forall_mem_cons] at h
    exact (ih h.2).trans (place_step h.1)

end State

/-- **Saving is all or nothing.** Take any run, with a save among its steps. The save succeeds exactly
if there is no directory at the path and the limit is below `2 ^ 63`. If it succeeds, the settings in
use stay, and as long as nothing later in the run replaces what is at the path, these are the settings
that are loaded, whichever are in use by then. If it fails, the settings and what is at the path stay
as they are. So they do after a load that fails. -/
theorem save_in_run (start : State) (earlier later : List Step) :
    let before := start.after earlier
    let saved := before.step .save
    start.run (earlier ++ .save :: later) = start.run earlier ++ saved :: saved.1.run later ∧
    (saved.2 = .done ↔ before.place ≠ .directory ∧ before.config.maxDepth ≤ Nat.pow 2 63 - 1) ∧
    (saved.2 = .done → saved.1.config = before.config ∧
      ((∀ entry ∈ later.zip (saved.1.run later), ¬entry.1.Replaces entry.2.2) →
        load (saved.1.after later).place = .ok before.config)) ∧
    (saved.2 ≠ .done → saved.1 = before ∧ ∃ error, saved.2 = .failed error) ∧
    ∀ error, (before.step .load).2 = .failed error → (before.step .load).1 = before := by
  intro before saved
  have hrun : start.run (earlier ++ .save :: later) =
      start.run earlier ++ saved :: saved.1.run later := State.run_append start earlier _
  have hload : ∀ error, (before.step .load).2 = .failed error → (before.step .load).1 = before :=
    fun _ => State.step_load_of_error
  have hbound : before.config.maxDepth < savedBound ↔ before.config.maxDepth ≤ Nat.pow 2 63 - 1 :=
    (Nat.le_sub_one_iff_lt (by decide)).symm
  cases hsave : before.config.save before.place with
  | ok place =>
    have hsaved : saved = ({ before with place }, .done) := State.step_save_of_ok hsave
    obtain ⟨hplace, hlt, -⟩ := save_eq_ok.mp hsave
    have hdone : saved.2 = .done := by rw [hsaved]
    refine ⟨hrun, ?_, fun _ => ⟨?_, fun hkept => ?_⟩, fun hfailed => ?_, hload⟩
    · exact iff_of_true hdone ⟨hplace, hbound.mp hlt⟩
    · rw [hsaved]
    · rw [State.place_after hkept, hsaved]
      exact load_of_save hsave
    · exact absurd hdone hfailed
  | error error =>
    have hsaved : saved = (before, .failed error) := State.step_save_of_error hsave
    have hnot : ¬(before.place ≠ .directory ∧ before.config.maxDepth ≤ Nat.pow 2 63 - 1) := by
      rintro ⟨hplace, hle⟩
      rw [save_eq_ok.mpr ⟨hplace, hbound.mpr hle, rfl⟩] at hsave
      cases hsave
    have hfailed : saved.2 ≠ .done := by rw [hsaved]; exact nofun
    refine ⟨hrun, ?_, fun hdone => ?_, fun _ => ?_, hload⟩
    · exact iff_of_false hfailed hnot
    · exact absurd hdone hfailed
    · rw [hsaved]
      exact ⟨rfl, error, rfl⟩

end TagQuery.Config
