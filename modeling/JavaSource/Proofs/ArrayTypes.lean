import JavaSource.Proofs.ThrownExceptions
import Mathlib.Data.Option.Basic

/-!
# Arrays in Place of Classes

Some places of a declaration are for classes. A method declares to throw a class, a
catch clause catches one, a class extends one and implements others, and an annotation
is named for one. No array can stand there: it is not a class, let alone an exception
or an interface.

The checks of these places all ask whether a type is made of a class, or made of a
class that is an exception. Of a type that is an array they ask what its elements are.
So arrays pass, and they pass wherever their elements would. What the checks do ensure
is that no primitive type stands in such a place, and since nothing stands there but
what was supplied, a caller that supplies no arrays finds none. Both together are
`BlindToArrays`, which is about one builder and the parts it is given.

## Main definitions

* `JavaType.toArray`: The arrays of a type.
* `BlindToArrays`: What a builder makes of arrays in places for classes.

## Theorems

* `AnnotationExpr.blindToArrays`, `Method.blindToArrays`, `ClassDecl.blindToArrays`,
  `TryParts.blindToArrays`: The builders with such places.
* `class_places_take_arrays`: All of them, whatever the parts.
* `arrays_stand_for_classes`: A declaration of each sort with arrays in these places.
-/

namespace JavaSource

namespace JavaType

/-- The type of the arrays of a type. There are no arrays of arrays, and none of no
    value. -/
def toArray : JavaType → JavaType
  | void => void
  | primitive p _ => primitive p true
  | reference r _ => reference r true

@[simp]
theorem isReference_toArray (t : JavaType) : t.toArray.isReference = t.isReference := by
  cases t <;> rfl

@[simp]
theorem reference?_toArray (t : JavaType) : t.toArray.reference? = t.reference? := by
  cases t <;> rfl

@[simp]
theorem isException_toArray (t : JavaType) : t.toArray.isException = t.isException := by
  cases t <;> rfl

theorem isReference_eq_isSome (t : JavaType) : t.isReference = t.reference?.isSome := by
  cases t <;> rfl

theorem isReference_of_isException {t : JavaType} (h : t.isException = true) :
    t.isReference = true := by
  cases t with
  | reference r isArray => rfl
  | void => cases h
  | primitive p isArray => cases h

/-- Two types that are no arrays are the same exactly if their arrays are. -/
theorem beq_toArray {t u : JavaType} (ht : t.isArray = false) (hu : u.isArray = false) :
    (t.toArray == u.toArray) = (t == u) := by
  rw [Bool.eq_iff_iff, beq_iff, beq_iff]
  cases t <;> cases u <;> simp_all [toArray, bare, isArray]

theorem isArray_bare (t : JavaType) : t.bare.isArray = t.isArray := by
  cases t <;> rfl

/-- Among the types that are kept there is an array if there is one among all types. -/
theorem firstOccurrences_isArray {ts : List JavaType} :
    (∀ t ∈ firstOccurrences ts, t.isArray = false) ↔ ∀ t ∈ ts, t.isArray = false := by
  constructor
  · intro h t ht
    rcases exists_mem_firstOccurrences beq_iff ht with ⟨u, hu, hsame⟩
    rw [← isArray_bare, ← hsame, isArray_bare]
    exact h u hu
  · intro h t ht
    exact h t (mem_of_mem_firstOccurrences ht)

theorem declarable_toArray {t : JavaType} : t.toArray.Declarable ↔ t.Declarable := by
  unfold Declarable
  rw [reference?_toArray]

end JavaType

/-- What a builder makes of arrays in places for classes, if it is given certain parts. What
    stands there is made of a class; it is no array exactly if none was supplied. If none was
    supplied, the builder would take arrays of all these types as well. -/
structure BlindToArrays {π α : Type} (build : π → Build α) (supplied : π → List JavaType)
    (kept : α → List JavaType) (mapTypes : (JavaType → JavaType) → π → π) (p : π) : Prop where
  isReference : ∀ a, (build p).outcome = .ok a → ∀ t ∈ kept a, t.isReference = true
  isArray_iff : ∀ a, (build p).outcome = .ok a →
    ((∀ t ∈ kept a, t.isArray = false) ↔ ∀ t ∈ supplied p, t.isArray = false)
  supplied_toArray : supplied (mapTypes .toArray p) = (supplied p).map .toArray
  accepts_iff : (∀ t ∈ supplied p, t.isArray = false) →
    ((∃ a, (build (mapTypes .toArray p)).outcome = .ok a) ↔ ∃ a, (build p).outcome = .ok a)

/-! ### The builders -/

theorem AnnotationExpr.blindToArrays (p : JavaType × Option String) :
    BlindToArrays (fun p : JavaType × Option String => AnnotationExpr.ofType p.1 p.2)
      (fun p => [p.1]) (fun a => [a.type]) (fun f p => (f p.1, p.2)) p where
  isReference a h t ht := by
    rcases ofType_eq_ok.mp h with ⟨hreference, rfl⟩
    rw [List.mem_singleton] at ht
    rw [ht]
    exact hreference
  isArray_iff a h := by
    rcases ofType_eq_ok.mp h with ⟨_, rfl⟩
    exact Iff.rfl
  supplied_toArray := rfl
  accepts_iff _ := by
    simp only [ofType_eq_ok, JavaType.isReference_toArray, exists_and_left, exists_eq, and_true]

namespace Method

/-- Replace the types that a method declares to throw. -/
def Parts.mapThrows (f : JavaType → JavaType) (p : Parts) : Parts :=
  { p with throwsTypes := p.throwsTypes.map f }

theorem blindToArrays (p : Parts) :
    BlindToArrays Parts.build Parts.throwsTypes Method.throwsTypes Parts.mapThrows p where
  isReference m h t ht := by
    rw [(madeOf_of_build h).throwsTypes] at ht
    have hdeclarable := (acceptable_of_build h).throwsTypes
    rw [← forall_mem_firstOccurrences] at hdeclarable
    rcases hdeclarable t ht with ⟨r, hr, _⟩
    rw [JavaType.isReference_eq_isSome, hr, Option.isSome_some]
  isArray_iff m h := by
    rw [(madeOf_of_build h).throwsTypes, JavaType.firstOccurrences_isArray]
  supplied_toArray := rfl
  accepts_iff h := by
    -- Among types that are no arrays, the same are kept and the same may be declared.
    have hkept : firstOccurrences (p.throwsTypes.map JavaType.toArray) =
        (firstOccurrences p.throwsTypes).map JavaType.toArray :=
      firstOccurrences_map (fun t ht u hu => JavaType.beq_toArray (h t ht) (h u hu))
    have harrays := @Parts.builds_iff p (p.throwsTypes.map JavaType.toArray)
    have hclasses := @Parts.builds_iff p p.throwsTypes
    rw [hkept, List.forall_mem_map] at harrays
    simp only [JavaType.declarable_toArray] at harrays
    exact harrays.trans hclasses.symm

end Method

namespace ClassDecl

/-- Replace the types that a class extends and implements. -/
def Parts.mapSupers (f : JavaType → JavaType) (p : Parts) : Parts :=
  { p with
    extendsType := p.extendsType.map f
    implementsTypes := p.implementsTypes.map f }

theorem acceptable_toArray {p : Parts}
    (h : ∀ t ∈ p.extendsType.toList ++ p.implementsTypes, t.isArray = false) :
    (p.mapSupers .toArray).Acceptable ↔ p.Acceptable := by
  simp only [List.mem_append, Option.mem_toList, or_imp, forall_and] at h
  have hextends :
      (∀ t ∈ p.extendsType.map JavaType.toArray, t.isReference = true ∧
        ∀ u ∈ p.implementsTypes.map JavaType.toArray, ¬ t.Alike u) ↔
      ∀ t ∈ p.extendsType, t.isReference = true ∧ ∀ u ∈ p.implementsTypes, ¬ t.Alike u := by
    simp only [Option.forall_mem_map, List.forall_mem_map, JavaType.isReference_toArray,
      ← JavaType.beq_iff_alike]
    refine forall₂_congr (fun t ht => and_congr_right (fun _ => ?_))
    refine forall₂_congr (fun u hu => ?_)
    rw [JavaType.beq_toArray (h.1 t ht) (h.2 u hu)]
  have himplements :
      (∀ t ∈ p.implementsTypes.map JavaType.toArray, t.isReference = true) ↔
      ∀ t ∈ p.implementsTypes, t.isReference = true := by
    simp only [List.forall_mem_map, JavaType.isReference_toArray]
  constructor
  · intro hp
    exact { hp with
      extendsType := hextends.mp hp.extendsType
      implementsTypes := himplements.mp hp.implementsTypes }
  · intro hp
    exact { hp with
      extendsType := hextends.mpr hp.extendsType
      implementsTypes := himplements.mpr hp.implementsTypes }

theorem blindToArrays (p : Parts) :
    BlindToArrays Parts.build (fun p => p.extendsType.toList ++ p.implementsTypes)
      (fun c => c.extendsType.toList ++ c.implementsTypes) Parts.mapSupers p where
  isReference c h t ht := by
    have hmade := madeOf_of_build h
    have hrules := acceptable_of_build h
    rw [hmade.extendsType, hmade.implementsTypes, List.mem_append, Option.mem_toList] at ht
    rcases ht with hextends | himplements
    · exact (hrules.extendsType t hextends).1
    · exact hrules.implementsTypes t (mem_of_mem_firstOccurrences himplements)
  isArray_iff c h := by
    have hmade := madeOf_of_build h
    rw [hmade.extendsType, hmade.implementsTypes, List.forall_mem_append, List.forall_mem_append,
      JavaType.firstOccurrences_isArray]
  supplied_toArray := by
    unfold Parts.mapSupers
    rw [List.map_append]
    cases p.extendsType <;> rfl
  accepts_iff h := by
    have hiff : ∀ q : Parts, (∃ c, q.build.outcome = .ok c) ↔ q.Acceptable :=
      fun q => ⟨fun ⟨_, hc⟩ => acceptable_of_build hc, exists_build_of_acceptable⟩
    rw [hiff, hiff, acceptable_toArray h]

end ClassDecl

/-- The type of the exceptions that a statement catches. -/
def Stmt.caughtTypes : Stmt → List JavaType
  | .tryCatch _ _ catchVariable _ _ => catchVariable.toList.map (fun v => v.var.type)
  | _ => []

namespace TryParts

/-- Replace the type of the exceptions that a try statement catches. -/
def mapCaught (f : JavaType → JavaType) (p : TryParts) : TryParts :=
  { p with
    catchVariable := p.catchVariable.map
      (fun v => { v with var := { v.var with type := f v.var.type } }) }

theorem blindToArrays (p : TryParts) :
    BlindToArrays build (fun p => p.catchVariable.toList.map (fun v => v.var.type))
      Stmt.caughtTypes mapCaught p where
  isReference s h t ht := by
    rcases build_eq_ok.mp h with ⟨_, ⟨hcaught, _⟩, rfl⟩
    rcases List.mem_map.mp ht with ⟨v, hv, rfl⟩
    exact JavaType.isReference_of_isException (hcaught v (Option.mem_toList.mp hv)).2
  isArray_iff s h := by
    rcases build_eq_ok.mp h with ⟨_, _, rfl⟩
    exact Iff.rfl
  supplied_toArray := by
    unfold mapCaught
    cases p.catchVariable <;> rfl
  accepts_iff _ := by
    have hcaught : ∀ q : TryParts, (∃ s, q.build.outcome = .ok s) ↔
        (∀ a ∈ q.resource, a.target.isDeclaration = true) ∧
          (∀ v ∈ q.catchVariable, v.isDeclaration = true ∧ v.var.type.isException = true) ∧
          (q.isSample = false → q.catchVariable.isSome = true) := by
      intro q
      simp only [build_eq_ok, exists_and_left, exists_eq, and_true]
    rw [hcaught, hcaught]
    simp only [mapCaught, Option.forall_mem_map, JavaType.isException_toArray, Option.isSome_map]

end TryParts

/-- Whatever the parts of an annotation, of a method, of a class and of a try statement are,
    the types in the places for classes are made of classes if it is built, and they are no
    arrays exactly if no arrays were supplied; and if none were, it is built with arrays of
    them just as it is with them. -/
theorem class_places_take_arrays (type : JavaType) (value : Option String) (m : Method.Parts)
    (c : ClassDecl.Parts) (t : TryParts) :
    BlindToArrays (fun p : JavaType × Option String => AnnotationExpr.ofType p.1 p.2)
      (fun p => [p.1]) (fun a => [a.type]) (fun f p => (f p.1, p.2)) (type, value) ∧
    BlindToArrays Method.Parts.build Method.Parts.throwsTypes Method.throwsTypes
      Method.Parts.mapThrows m ∧
    BlindToArrays ClassDecl.Parts.build (fun p => p.extendsType.toList ++ p.implementsTypes)
      (fun c => c.extendsType.toList ++ c.implementsTypes) ClassDecl.Parts.mapSupers c ∧
    BlindToArrays TryParts.build (fun p => p.catchVariable.toList.map (fun v => v.var.type))
      Stmt.caughtTypes TryParts.mapCaught t :=
  ⟨AnnotationExpr.blindToArrays (type, value), Method.blindToArrays m, ClassDecl.blindToArrays c,
    TryParts.blindToArrays t⟩

/-- A method that declares to throw arrays of exceptions, a class that extends and implements
    arrays, a statement that catches arrays of exceptions and an annotation named for an
    array are all built. -/
theorem arrays_stand_for_classes :
    (∃ m, { Method.Parts.close with
        annotations := []
        isOverride := false
        throwsTypes := [.reference (.topLevel "java.io" "IOException") true] }.build.outcome =
          .ok m ∧ ∃ t ∈ m.throwsTypes, t.isArray = true) ∧
    (∃ c, { ClassDecl.Parts.page with
        extendsType := some (.reference (.javaLang "Thread") true)
        implementsTypes := [.reference (.javaLang "Runnable") true] }.build.outcome =
          .ok c ∧ (∃ t ∈ c.extendsType, t.isArray = true) ∧
            ∃ t ∈ c.implementsTypes, t.isArray = true) ∧
    (∃ s, (TryParts.mk none [] (some ⟨⟨⟨"e"⟩, .reference (.topLevel "java.io" "IOException") true⟩,
        true, .localScope⟩) [] false).build.outcome = .ok s ∧
          ∃ t ∈ s.caughtTypes, t.isArray = true) ∧
    ∃ a, (AnnotationExpr.ofType (.reference (.javaLang "Deprecated") true) none).outcome =
      .ok a ∧ a.type.isArray = true := by
  refine ⟨⟨_, rfl, _, List.mem_cons_self, rfl⟩, ⟨_, rfl, ⟨_, rfl, rfl⟩, _, List.mem_cons_self, rfl⟩,
    ⟨_, rfl, _, List.mem_cons_self, rfl⟩, ⟨_, rfl, rfl⟩⟩

end JavaSource
