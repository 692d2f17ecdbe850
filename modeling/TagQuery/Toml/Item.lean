/-!
# Tables of a TOML document

* `Toml.Item`: what a key can stand for. A table remembers how it came about, since that decides
  whether a later line may add to it.
* `Toml.Entries`: the keys of a table with their items, in order of definition.
* `Entries.assign?`: the entry of a dotted key. It may go through tables that headers only implied,
  but must end in one that dotted keys made, and no key is given twice.
* `Entries.openTable?` and `Entries.openElement?`: the table or the array element that a header
  opens. A table is opened once; an element is always new.
-/

namespace TagQuery.Toml

/-- How a table came about. -/
inductive Origin where
  /-- By a header of its own. -/
  | header
  /-- By the header of a table below it. -/
  | implied
  /-- By a dotted key. -/
  | dotted
  deriving DecidableEq

/-- What a key stands for. Floats and times are kept as they are written. -/
inductive Item where
  | string (text : String)
  | integer (value : Int)
  | float (written : String)
  | boolean (value : Bool)
  | dateTime (written : String)
  | array (items : List Item)
  /-- A table in braces, to which nothing can be added. -/
  | inlineTable (entries : List (String × Item))
  | table (origin : Origin) (entries : List (String × Item))
  /-- An array of tables, the last element first. -/
  | tables (elements : List (List (String × Item)))

/-- The keys of a table with their items. -/
abbrev Entries := List (String × Item)

namespace Entries

/-- Gives a key a new item, in the place of the old one if it had one. -/
def set (entries : Entries) (key : String) (item : Item) : Entries :=
  match entries with
  | [] => [(key, item)]
  | (k, old) :: rest => if k = key then (key, item) :: rest else (k, old) :: set rest key item

/-- Gives the item to a dotted key. -/
def assign? (path : List String) (item : Item) (entries : Entries) : Option Entries :=
  match path with
  | [] => none
  | [key] =>
    match entries.lookup key with
    | none => some (entries.set key item)
    | some _ => none
  | key :: next :: path =>
    match entries.lookup key with
    | none => do
      let inner ← assign? (next :: path) item []
      return entries.set key (.table .dotted inner)
    | some (.table .dotted inner) => do
      let inner ← assign? (next :: path) item inner
      return entries.set key (.table .dotted inner)
    | some (.table .implied inner) =>
      if path.isEmpty then none
      else do
        let inner ← assign? (next :: path) item inner
        return entries.set key (.table .implied inner)
    | some (.tables (last :: earlier)) =>
      if path.isEmpty then none
      else do
        let last ← assign? (next :: path) item last
        return entries.set key (.tables (last :: earlier))
    | some _ => none

/-- Changes the table that a header's path leads to. Tables that are not there yet are implied, and
the last element stands for an array of tables. -/
def modify? (path : List String) (change : Entries → Option Entries) (entries : Entries) :
    Option Entries :=
  match path with
  | [] => change entries
  | key :: path =>
    match entries.lookup key with
    | none => do
      let inner ← modify? path change []
      return entries.set key (.table .implied inner)
    | some (.table origin inner) => do
      let inner ← modify? path change inner
      return entries.set key (.table origin inner)
    | some (.tables (last :: earlier)) => do
      let last ← modify? path change last
      return entries.set key (.tables (last :: earlier))
    | some _ => none

/-- Opens the table of a header. -/
def openTable? (path : List String) (entries : Entries) : Option Entries := do
  let key ← path.getLast?
  entries.modify? path.dropLast fun parent =>
    match parent.lookup key with
    | none => some (parent.set key (.table .header []))
    | some (.table .implied inner) => some (parent.set key (.table .header inner))
    | some _ => none

/-- Opens a new element of the array of tables of a header. -/
def openElement? (path : List String) (entries : Entries) : Option Entries := do
  let key ← path.getLast?
  entries.modify? path.dropLast fun parent =>
    match parent.lookup key with
    | none => some (parent.set key (.tables [[]]))
    | some (.tables elements) => some (parent.set key (.tables ([] :: elements)))
    | some _ => none

end Entries

end TagQuery.Toml
