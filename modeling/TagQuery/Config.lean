import TagQuery.Grammar
import TagQuery.Text.Decimal

/-!
# Settings

* `Config`: the settings, of which there is one, the nesting limit of queries.
* `Config.ofSetting`: the settings that an environment variable asks for. A text that is no number
  is passed over with a warning, and bytes that are no text without one.
* `Config.grammar`: the grammar with the limit of the settings.
-/

namespace TagQuery

/-- The settings. -/
structure Config where
  /-- The nesting limit of queries. -/
  maxDepth : Nat := 256
  deriving DecidableEq

namespace Config

/-- Numbers in settings lie below this. -/
def numberBound : Nat :=
  Nat.pow 2 64

/-- The grammar with the limit of the settings. -/
def grammar (config : Config) : Grammar :=
  ⟨config.maxDepth⟩

/-! ## The environment -/

/-- The environment variable that sets the nesting limit. -/
def variableName : String :=
  "ANQ_MAX_DEPTH"

/-- The warning about a value of the variable that is no number. -/
def warning (raw : String) (fault : Text.Decimal.Fault) : String :=
  "ignoring " ++ variableName ++ "=" ++ Text.visible raw ++ ": " ++ fault.text ++
    "; using max_depth=" ++ toString ({} : Config).maxDepth

/-- The settings for a value of the variable. White space around the number does not count. -/
def ofSetting (raw : String) : Logged Config :=
  match Text.Decimal.readUnsigned numberBound (Text.trim raw.toList) with
  | .ok maxDepth => ⟨{ maxDepth }, []⟩
  | .error fault => ⟨{}, [⟨.warn, warning raw fault⟩]⟩

/-- The settings for what the variable holds, if it is set. -/
def ofEnvironment (bytes : Option ByteArray) : Logged Config :=
  match bytes.bind String.fromUTF8? with
  | some raw => ofSetting raw
  | none => ⟨{}, []⟩

end Config

end TagQuery
