import TagQuery.Combinators
import TagQuery.Text.Offset

/-!
# Readers that keep their place in bytes

The combinators once more, for a reader whose place in the text is an offset in bytes. It cannot look
at the text from inside a character; a reader that tries has no outcome at all.

* `ByteState`: the offset of the next character, and what was missed at the furthest offset so far.
  Nothing else is remembered of what was missed (`ByteState.miss`).
* `Terminal.sizeAt?`: how many bytes a terminal takes up at an offset, if it is there. A keyword is
  compared with a slice of the bytes, which need not end between two characters.
* `ByteReader`: from a text and a state to a reply and the next state.
-/

namespace TagQuery

/-- What a reader remembers, in bytes. -/
structure ByteState where
  /-- The offset of the next unread character. -/
  position : Nat
  /-- The offset of the furthest terminal that was missed. -/
  furthest : Nat
  /-- The terminals that were missed there. -/
  expected : List Terminal

namespace ByteState

/-- Before anything is read. -/
def start : ByteState :=
  ⟨0, 0, []⟩

/-- So many bytes further on. -/
def advance (state : ByteState) (size : Nat) : ByteState :=
  { state with position := state.position + size }

/-- Back at an offset. What was missed is still remembered. -/
def backTo (state : ByteState) (position : Nat) : ByteState :=
  { state with position }

/-- A terminal is missed. It matters if no other was missed further on. -/
def miss (state : ByteState) (t : Terminal) : ByteState :=
  if state.position < state.furthest then state
  else if state.furthest < state.position then
    { state with furthest := state.position, expected := [t] }
  else { state with expected := state.expected ++ [t] }

end ByteState

/-! ## Terminals -/

/-- A byte with the case of an ASCII letter changed to upper case. -/
def Text.upperByte (byte : UInt8) : UInt8 :=
  if 97 ≤ byte ∧ byte ≤ 122 then byte - 32 else byte

/-- How many bytes a terminal takes up at an offset, or none if it is not there. There is no answer
where the text would have to be looked at from inside a character. -/
def Terminal.sizeAt? (text : List Char) (position : Nat) : Terminal → Option (Option Nat)
  | symbol s => do
    let (_, rest) ← Text.splitAt? text position
    let word := Text.bytes s.text.toList
    return if (Text.bytes rest).take word.length = word then some word.length else none
  | keyword k =>
    let word := Text.bytes k.text.toList
    let slice := ((Text.bytes text).drop position).take word.length
    some (if slice.map Text.upperByte = word then some word.length else none)
  | character cls => do
    let (_, rest) ← Text.splitAt? text position
    match rest with
    | c :: _ => return if cls.contains c then some c.utf8Size else none
    | [] => return none
  | endOfInput => some (if position = (Text.bytes text).length then some 0 else none)

/-- A character that is there takes up one to four bytes of the text. -/
theorem Terminal.sizeAt?_character {cls : CharClass} {text : List Char} {position size : Nat}
    (h : (character cls).sizeAt? text position = some (some size)) :
    0 < size ∧ size ≤ 4 ∧ position + size ≤ (Text.bytes text).length := by
  simp only [sizeAt?, Option.bind_eq_bind, Option.bind_eq_some_iff, Prod.exists] at h
  obtain ⟨before, rest, hsplit, h⟩ := h
  obtain ⟨rfl, rfl⟩ := Text.splitAt?_eq_some_iff.mp hsplit
  cases rest with
  | nil => cases h
  | cons c rest =>
    obtain ⟨-, rfl⟩ : cls.contains c ∧ c.utf8Size = size := by simpa using h
    refine ⟨c.utf8Size_pos, c.utf8Size_le_four, ?_⟩
    rw [Text.bytes_append, List.length_append, Text.length_bytes_cons]
    omega

/-! ## Readers -/

/-- What a reader came to. The place after a value is in the state. -/
inductive ByteReply (α : Type) where
  | done (value : α)
  | mismatch
  /-- The text nests too deep, beginning at an offset. -/
  | tooDeep (position : Nat)

/-- A reader of a text from a state on. -/
def ByteReader (α : Type) :=
  (text : List Char) → ByteState → Option (ByteReply α × ByteState)

namespace ByteReader

variable {α β : Type}

def pure (value : α) : ByteReader α := fun _ state =>
  some (.done value, state)

def bind (p : ByteReader α) (f : α → ByteReader β) : ByteReader β := fun text state =>
  match p text state with
  | some (.done value, next) => f value text next
  | some (.mismatch, next) => some (.mismatch, next)
  | some (.tooDeep position, next) => some (.tooDeep position, next)
  | none => none

def orElse (p q : ByteReader α) : ByteReader α := fun text state =>
  match p text state with
  | some (.mismatch, next) => q text (next.backTo state.position)
  | other => other

def optional (p : ByteReader α) : ByteReader (Option α) := fun text state =>
  match p text state with
  | some (.done value, next) => some (.done (some value), next)
  | some (.mismatch, next) => some (.done none, next.backTo state.position)
  | some (.tooDeep position, next) => some (.tooDeep position, next)
  | none => none

def tooDeep : ByteReader α := fun _ state =>
  some (.tooDeep state.position, state)

def terminal (t : Terminal) : ByteReader Unit := fun text state =>
  match t.sizeAt? text state.position with
  | some (some size) => some (.done (), state.advance size)
  | some none => some (.mismatch, state.miss t)
  | none => none

/-- The state after all characters of a class that come next, each of them looked at from its own
offset. -/
def pass (cls : CharClass) (text : List Char) (state : ByteState) : Option ByteState :=
  match _ : (Terminal.character cls).sizeAt? text state.position with
  | some (some size) => pass cls text (state.advance size)
  | some none => some (state.miss (.character cls))
  | none => none
termination_by (Text.bytes text).length - state.position
decreasing_by
  have hsize := Terminal.sizeAt?_character ‹_›
  simp only [ByteState.advance]
  omega

theorem pass_of_none {cls : CharClass} {text : List Char} {state : ByteState}
    (h : (Terminal.character cls).sizeAt? text state.position = some none) :
    pass cls text state = some (state.miss (.character cls)) := by
  rw [pass]
  split <;> simp_all

theorem pass_of_some {cls : CharClass} {text : List Char} {state : ByteState} {size : Nat}
    (h : (Terminal.character cls).sizeAt? text state.position = some (some size)) :
    pass cls text state = pass cls text (state.advance size) := by
  rw [pass]
  split <;> simp_all

def skip (cls : CharClass) : ByteReader Unit := fun text state => do
  return (.done (), ← pass cls text state)

/-- The characters are cut out of the text between the two offsets. -/
def run (cls : CharClass) : ByteReader String := fun text state => do
  let next ← pass cls text state
  if state.position < next.position then
    let inside ← Text.slice? text state.position next.position
    return (.done (String.ofList inside), next)
  else return (.mismatch, next)

instance : Combinators ByteReader where
  pure := pure
  bind := bind
  orElse := orElse
  optional := optional
  tooDeep := tooDeep
  terminal := terminal
  skip := skip
  run := run
  marked _ p := p

end ByteReader

end TagQuery
