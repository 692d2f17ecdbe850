import TagQuery.Expr.Wire
import TagQuery.Proofs.Json.RoundTrip

/-!
# The wire form loses nothing

* `Expr.parse?_wire`: the wire form of an expression is the text of one JSON value.
* `Expr.objects_toJson_synonymsFlag`: of the objects in this value the semantic tags have the field
  for the flag, and no others.
* `Expr.wire_lossless`: every expression is read back from its wire form, so no two have the same.
-/

namespace TagQuery

open Json (Value)

namespace Expr

theorem numeric_toJson (e : Expr) : e.toJson.Numeric := by
  induction e with
  | tag t => cases t <;> simp [toJson, Tag.toJson, Value.Numeric, Value.NumericFields]
  | negation operand ih => simp [toJson, Value.Numeric, Value.NumericFields, ih]
  | binary op left right ihleft ihright =>
    simp [toJson, Value.Numeric, Value.NumericFields, ihleft, ihright]

theorem parse?_wire (e : Expr) : Json.parse? e.wire = some e.toJson :=
  Json.parse?_render e.numeric_toJson

/-- The objects that have the field for the flag are the semantic tags, from left to right. -/
theorem objects_toJson_synonymsFlag (e : Expr) :
    (e.toJson.objects.filter (Value.hasKey "synonymsFlag")).map Value.object =
      (e.leaves.filter (·.kind = .semantic)).map Tag.toJson := by
  induction e with
  | tag t =>
    cases t <;>
      simp [toJson, Tag.toJson, leaves, Tag.kind, Value.objects, Value.objectsOfFields,
        Value.hasKey]
  | negation operand ih =>
    simp [toJson, leaves, Value.objects, Value.objectsOfFields, Value.hasKey, ih]
  | binary op left right ihleft ihright =>
    simp [toJson, leaves, Value.objects, Value.objectsOfFields, Value.hasKey, ihleft, ihright]

/-- **The wire form is lossless.** Every expression is read back from its wire form, whatever
characters its values hold. So two expressions have the same wire form only if they are the same.
The wire form is one JSON value, in which the objects with the field `synonymsFlag` are exactly the
semantic tags. -/
theorem wire_lossless :
    (∀ e : Expr, ofWire? e.wire = some e) ∧
    (∀ e e' : Expr, e.wire = e'.wire ↔ e = e') ∧
    ∀ e : Expr, Json.parse? e.wire = some e.toJson ∧
      (e.toJson.objects.filter (Value.hasKey "synonymsFlag")).map Value.object =
        (e.leaves.filter (·.kind = .semantic)).map Tag.toJson := by
  have hread : ∀ e : Expr, ofWire? e.wire = some e := fun e => by
    simp [ofWire?, parse?_wire]
  refine ⟨hread, fun e e' => ⟨fun h => ?_, congrArg wire⟩, fun e => ?_⟩
  · have hsame := hread e
    rw [h, hread e'] at hsame
    exact (Option.some.inj hsame).symm
  · exact ⟨e.parse?_wire, e.objects_toJson_synonymsFlag⟩

end Expr

end TagQuery
