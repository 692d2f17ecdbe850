import TagQuery.Json.Reader

/-!
# The parts of JSON values

* `Json.Value.depth`: how deep arrays and objects nest.
* `Json.Value.objects`: every object in a value, by its fields. `Json.Value.hasKey`: those that have
  a field of some name.
* `Json.Value.Numeric`: the numbers in a value are spelled as numbers.
-/

namespace TagQuery.Json.Value

mutual

/-- How deep arrays and objects nest. -/
def depth : Value → Nat
  | array items => depthOfItems items + 1
  | object fields => depthOfFields fields + 1
  | _ => 0

/-- How deep the items of an array nest. -/
def depthOfItems : List Value → Nat
  | [] => 0
  | item :: items => max item.depth (depthOfItems items)

/-- How deep the fields of an object nest. -/
def depthOfFields : List (String × Value) → Nat
  | [] => 0
  | (_, value) :: fields => max value.depth (depthOfFields fields)

end

theorem depthOfItems_le_iff {levels : Nat} {items : List Value} :
    depthOfItems items ≤ levels ↔ ∀ item ∈ items, item.depth ≤ levels := by
  induction items with
  | nil => simp [depthOfItems]
  | cons item items ih => rw [depthOfItems, Nat.max_le, ih, List.forall_mem_cons]

theorem depthOfFields_le_iff {levels : Nat} {fields : List (String × Value)} :
    depthOfFields fields ≤ levels ↔ ∀ field ∈ fields, field.2.depth ≤ levels := by
  induction fields with
  | nil => simp [depthOfFields]
  | cons field fields ih => rw [depthOfFields, Nat.max_le, ih, List.forall_mem_cons]

mutual

/-- The fields of every object in a value, those of an object before those of the objects in it. -/
def objects : Value → List (List (String × Value))
  | array items => objectsOfItems items
  | object fields => fields :: objectsOfFields fields
  | _ => []

/-- The objects in the items of an array. -/
def objectsOfItems : List Value → List (List (String × Value))
  | [] => []
  | item :: items => item.objects ++ objectsOfItems items

/-- The objects in the fields of an object. -/
def objectsOfFields : List (String × Value) → List (List (String × Value))
  | [] => []
  | (_, value) :: fields => value.objects ++ objectsOfFields fields

end

/-- Whether one of the fields has the name. -/
def hasKey (key : String) (fields : List (String × Value)) : Bool :=
  fields.any (·.1 == key)

mutual

/-- The numbers in a value are spelled as numbers. -/
def Numeric : Value → Prop
  | number written => isNumber written.toList
  | array items => NumericItems items
  | object fields => NumericFields fields
  | _ => True

/-- The numbers in the items of an array are spelled as numbers. -/
def NumericItems : List Value → Prop
  | [] => True
  | item :: items => item.Numeric ∧ NumericItems items

/-- The numbers in the fields of an object are spelled as numbers. -/
def NumericFields : List (String × Value) → Prop
  | [] => True
  | (_, value) :: fields => value.Numeric ∧ NumericFields fields

end

theorem numericItems_iff {items : List Value} :
    NumericItems items ↔ ∀ item ∈ items, item.Numeric := by
  induction items with
  | nil => simp [NumericItems]
  | cons item items ih => simp [NumericItems, ih]

theorem numericFields_iff {fields : List (String × Value)} :
    NumericFields fields ↔ ∀ field ∈ fields, field.2.Numeric := by
  induction fields with
  | nil => simp [NumericFields]
  | cons field fields ih => rw [NumericFields, ih, List.forall_mem_cons]

end TagQuery.Json.Value
