import JavaSource.JavaType

/-!
# Annotations

A class named before a declaration to say something about it, with at most
one text for a value.

## Main definitions

* `AnnotationExpr`: An annotation of a declaration.
* `AnnotationExpr.ofType`: The checked way to an annotation.
* `AnnotationExpr.overrideMarker`: What marks a method that overrides another.
-/

namespace JavaSource

/-- An annotation of a declaration. -/
structure AnnotationExpr where
  /-- The class of the annotation. -/
  type : JavaType
  /-- Its value, if it has one. -/
  value : Option String

namespace AnnotationExpr

/-- What marks a method that overrides another. -/
def overrideMarker : AnnotationExpr :=
  ⟨.reference (.javaLang "Override") false, none⟩

/-- What marks a declaration that should not be used any more. -/
def deprecatedMarker : AnnotationExpr :=
  ⟨.reference (.javaLang "Deprecated") false, none⟩

/-- What silences the warnings of one kind. -/
def suppressWarnings (value : String) : AnnotationExpr :=
  ⟨.reference (.javaLang "SuppressWarnings") false, some value⟩

/-- An annotation of a type, which must be made of a class. -/
def ofType (type : JavaType) (value : Option String) : Build AnnotationExpr :=
  if type.isReference then pure ⟨type, value⟩
  else rejectFault .annotationExpr .annotationNotReference

/-- Whether two annotations are the same. -/
def beq (a b : AnnotationExpr) : Bool :=
  a.type == b.type && a.value == b.value

instance : BEq AnnotationExpr where
  beq := beq

end AnnotationExpr

end JavaSource
