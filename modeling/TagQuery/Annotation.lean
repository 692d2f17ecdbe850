import TagQuery.Json.Reader
import TagQuery.Tag

/-!
# Stored annotations

* `AnnotationKind`: what an annotation records. Triples are stored but cannot be queried.
* `TagKind.appliesTo`: which tags look at which annotations. A pattern looks at every annotation
  that can be queried, any other tag at annotations of its own kind.
* `AnnotationKind.ofJson?`: a kind read from JSON.
* `AnnotationRecord`: an annotation with its label and its sources.
-/

namespace TagQuery

/-- The kinds of stored annotation. -/
inductive AnnotationKind where
  | semantic
  | keyword
  | comment
  | triple
  deriving DecidableEq

namespace AnnotationKind

/-- Every kind of annotation. -/
def all : List AnnotationKind :=
  [.semantic, .keyword, .comment, .triple]

/-- The name under which a kind is stored. -/
def name : AnnotationKind → String
  | semantic => "semantic"
  | keyword => "keyword"
  | comment => "comment"
  | triple => "triple"

/-- The kind stored under `name`, in lower case throughout. -/
def ofName? (name : String) : Option AnnotationKind :=
  all.find? (·.name == name)

/-- Whether a query can find annotations of this kind. -/
def isQueryable : AnnotationKind → Bool
  | triple => false
  | _ => true

@[simp] theorem ofName?_name (kind : AnnotationKind) : ofName? kind.name = some kind := by
  cases kind <;> decide

/-- A kind from a JSON text: its name as a string, or an object with the name as its only key and
`null` as the value. -/
def ofJson? (text : String) : Option AnnotationKind :=
  match Json.parse? text with
  | some (.string name) => ofName? name
  | some (.object [(name, .null)]) => ofName? name
  | _ => none

end AnnotationKind

/-! ## Which tags apply -/

/-- The annotations that a kind of tag is about, if it is about one kind alone. -/
def TagKind.annotationKind? : TagKind → Option AnnotationKind
  | .semantic => some .semantic
  | .keyword => some .keyword
  | .comment => some .comment
  | .regex => none

/-- Whether a kind of tag can find annotations of a kind. -/
def TagKind.appliesTo (tag : TagKind) (stored : AnnotationKind) : Bool :=
  stored.isQueryable && tag.annotationKind?.all (· == stored)

/-- A stored annotation. -/
structure AnnotationRecord where
  kind : AnnotationKind
  label : String
  /-- Where the annotation came from; nothing is on record unless it is given. -/
  sources : List String := []

/-- Each tag of a query in canonical text, with whether its kind applies to the record. -/
def AnnotationRecord.applicable (record : AnnotationRecord) (tags : List Tag) :
    List (String × Bool) :=
  tags.map fun tag => (tag.text, tag.kind.appliesTo record.kind)

end TagQuery
