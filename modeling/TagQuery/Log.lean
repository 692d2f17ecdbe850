/-!
# Log entries

* `Log.Entry`: a message with its level.
* `Logged`: a value with the entries that were written while it was worked out, oldest first.
-/

namespace TagQuery

namespace Log

/-- How much a log entry matters. -/
inductive Level where
  | trace
  | debug
  | warn
  deriving DecidableEq

/-- The name of a level. -/
def Level.name : Level → String
  | trace => "TRACE"
  | debug => "DEBUG"
  | warn => "WARN"

/-- One message in a log. -/
structure Entry where
  level : Level
  message : String
  deriving DecidableEq

end Log

/-- A value, with what was logged on the way to it. -/
structure Logged (α : Type) where
  value : α
  entries : List Log.Entry

namespace Logged

variable {α β : Type}

/-- A value about which nothing is logged. -/
def pure (value : α) : Logged α :=
  ⟨value, []⟩

/-- The entries of two computations, in the order in which they ran. -/
def bind (first : Logged α) (next : α → Logged β) : Logged β :=
  let second := next first.value
  ⟨second.value, first.entries ++ second.entries⟩

/-- Writes one entry. -/
def write (entry : Log.Entry) : Logged Unit :=
  ⟨(), [entry]⟩

instance : Monad Logged where
  pure := pure
  bind := bind

end Logged

end TagQuery
