import TagQuery.Config.File

/-!
# Runs of settings steps

* `Config.State`: the settings in use and what there is at the path of their file.
* `Config.Step` and `Config.State.step`: one change or question, with its answer. A step that fails
  changes nothing.
* `Config.State.run`: the answers to a list of steps, each with the state after it.
* `Config.State.after`: the state after all of them.
* `Config.Step.Replaces`: the steps that put something else at the path, by their answers.
-/

namespace TagQuery.Config

/-- The settings in use, and what there is at the path of their file. -/
structure State where
  config : Config := {}
  place : Place := .absent

/-- What can be done with the settings and their file. -/
inductive Step where
  /-- Goes back to the default settings. -/
  | reset
  | setMaxDepth (maxDepth : Nat)
  /-- Reads the settings from the environment variable, if it is set. -/
  | environment (bytes : Option ByteArray)
  /-- Replaces whatever is at the path by a file. -/
  | write (contents : ByteArray)
  /-- Replaces whatever is at the path by a directory. -/
  | makeDirectory
  | remove
  /-- Asks for the contents of the file. -/
  | read
  | load
  | save
  /-- Reads a query with the nesting limit of the settings. -/
  | parse (query : String)

/-- What a step comes to. -/
inductive Answer where
  | done
  | logged (entries : List Log.Entry)
  /-- The contents of the file, if there is one and it is a text. -/
  | contents (text : Option String)
  /-- Settings were loaded, and perhaps differ from those before. -/
  | loaded (changed : Bool)
  | parsed (result : Except Rejection Expr)
  | failed (error : Error)

/-- The text of the file at a place. -/
def Place.text? : Place → Option String
  | .file contents => String.fromUTF8? contents
  | _ => none

/-- One step. -/
def State.step (state : State) (step : Step) : State × Answer :=
  match step with
  | .reset => ({ state with config := {} }, .done)
  | .setMaxDepth maxDepth => ({ state with config := { maxDepth } }, .done)
  | .environment bytes =>
    let logged := ofEnvironment bytes
    ({ state with config := logged.value }, .logged logged.entries)
  | .write contents => ({ state with place := .file contents }, .done)
  | .makeDirectory => ({ state with place := .directory }, .done)
  | .remove => ({ state with place := .absent }, .done)
  | .read => (state, .contents (Place.text? state.place))
  | .load =>
    match load state.place with
    | .ok config => ({ state with config }, .loaded (config ≠ state.config))
    | .error error => (state, .failed error)
  | .save =>
    match state.config.save state.place with
    | .ok place => ({ state with place }, .done)
    | .error error => (state, .failed error)
  | .parse query => (state, .parsed (state.config.grammar.parse query))

/-- The steps one after another: the answer to each, with the state after it. -/
def State.run (state : State) : List Step → List (State × Answer)
  | [] => []
  | step :: steps =>
    let next := state.step step
    next :: next.1.run steps

/-- The state that steps lead to. -/
def State.after (state : State) (steps : List Step) : State :=
  steps.foldl (fun state step => (state.step step).1) state

/-- Whether a step that is answered so puts something else at the path. Settings do so only where
they are saved. -/
def Step.Replaces (step : Step) (answer : Answer) : Prop :=
  match step, answer with
  | .write _, _ | .makeDirectory, _ | .remove, _ | .save, .done => True
  | _, _ => False

end TagQuery.Config
