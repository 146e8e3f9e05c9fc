import JavaSource.Proofs.Declarations

/-!
# The Mark of an Overriding Method

A method that overrides another carries a mark that says so, as the last of its
annotations and only once. A caller may have supplied the mark already, at any place and
any number of times, and with it annotations that look like it: one of the same class with
a value, one of an array of that class, or the mark itself with something known about the
superclass.

Which of these count as the mark is decided by the test for sameness alone
(`AnnotationExpr.marksOverride_iff`). The builder first drops what was supplied twice, then
takes the mark out of what is left and puts it at the end. The result could as well be had
in the other order, by taking out every mark that was supplied and then dropping what is
there twice (`firstOccurrences_filter`). In this form one can see that the other annotations
are what they would be without the mark: none of them is lost, and none changes its place
among the others.

A method that overrides nothing keeps the mark if it was supplied, at the place where it
came first.

## Main definitions

* `AnnotationExpr.marksOverride`: Whether an annotation is the same as the mark.

## Theorems

* `AnnotationExpr.marksOverride_iff`: Which annotations are the same as the mark.
* `firstOccurrences_of_same`: Of members that are all the same the first is kept.
* `firstOccurrences_split`: A first occurrence keeps its place.
* `AnnotationExpr.filter_others_firstOccurrences`: What is kept besides the mark.
* `AnnotationExpr.filter_marksOverride_firstOccurrences`, `AnnotationExpr.firstOccurrences_mark`:
  Which mark is kept, and where.
* `Method.Parts.build_annotated`: Annotations make no difference to anything else.
* `Method.override_mark_last_and_once`: Where the mark stands among the annotations.
-/

namespace JavaSource

section Places

variable {α : Type} [BEq α] {x : α} {xs before after : List α}

theorem firstOccurrences_of_same (h : ∀ x ∈ xs, ∀ y ∈ xs, (x == y) = true) :
    firstOccurrences xs = xs.head?.toList := by
  cases xs with
  | nil => rfl
  | cons x xs =>
      have hrest : firstsAfter [x] xs = [] := by
        rw [List.eq_nil_iff_forall_not_mem]
        intro y hy
        rcases mem_firstsAfter.mp hy with ⟨before, after, rfl, hbefore⟩
        have hdiffer : (x == y) = false := hbefore x (by simp)
        rw [h x (by simp) y (by simp)] at hdiffer
        cases hdiffer
      rw [firstOccurrences, firstsAfter, List.any_nil]
      exact congrArg (List.cons x) hrest

/-- A member that is not the same as one before it stands after what is kept of those, and
    is itself kept. -/
theorem firstOccurrences_split (h : ∀ y ∈ before, (y == x) = false) :
    firstOccurrences (before ++ x :: after) =
      firstOccurrences before ++ x :: firstsAfter (before ++ [x]) after := by
  have hnew : before.any (fun y => y == x) = false := by simpa using h
  rw [firstOccurrences, firstsAfter_append, List.nil_append, firstsAfter, hnew]
  rfl

end Places

namespace AnnotationExpr

/-- Whether an annotation is the same as the mark of an overriding method. -/
def marksOverride (a : AnnotationExpr) : Bool :=
  a == .overrideMarker

/-- The mark is made of the class `java.lang.Override` alone. It has no value and is no
    array, but anything may be known about the superclass. -/
theorem marksOverride_iff {a : AnnotationExpr} :
    a.marksOverride = true ↔ a.value = none ∧ ∃ declaredSuper,
      a.type = .reference ⟨"java.lang", [], "Override", [], declaredSuper⟩ false := by
  rcases a with ⟨type, value⟩
  rw [marksOverride, beq_iff, bare, bare, mk.injEq, and_comm]
  refine and_congr_right (fun _ => ?_)
  cases type with
  | void => simp [overrideMarker, JavaType.bare]
  | primitive p isArray => simp [overrideMarker, JavaType.bare]
  | reference r isArray =>
      rcases r with ⟨package, enclosing, name, generics, declaredSuper⟩
      simp [overrideMarker, JavaType.bare, Reference.bare, Reference.bareAll_eq_map,
        Reference.javaLang, Reference.topLevel]

theorem marksOverride_congr {a b : AnnotationExpr} (h : (a == b) = true) :
    a.marksOverride = b.marksOverride := by
  rw [beq_iff] at h
  rw [marksOverride, marksOverride, Bool.eq_iff_iff, beq_iff, beq_iff, h]

/-- Marks are the same as each other. -/
theorem beq_of_marksOverride {a b : AnnotationExpr} (ha : a.marksOverride = true)
    (hb : b.marksOverride = true) : (a == b) = true := by
  rw [marksOverride, beq_iff] at ha hb
  rw [beq_iff, ha, hb]

/-- Taking out the mark and keeping first occurrences can be done in either order. -/
theorem filter_others_firstOccurrences (as : List AnnotationExpr) :
    (firstOccurrences as).filter (fun a => !a.marksOverride) =
      firstOccurrences (as.filter (fun a => !a.marksOverride)) := by
  refine firstOccurrences_filter (fun a b hab => ?_)
  rw [marksOverride_congr hab]

theorem filter_marksOverride_others (as : List AnnotationExpr) :
    (firstOccurrences (as.filter (fun a => !a.marksOverride))).filter marksOverride = [] := by
  rw [List.filter_eq_nil_iff]
  intro a ha
  have hother := (List.mem_filter.mp (mem_of_mem_firstOccurrences ha)).2
  simpa using hother

/-- Of the marks that were supplied the first is kept. -/
theorem filter_marksOverride_firstOccurrences (as : List AnnotationExpr) :
    (firstOccurrences as).filter marksOverride = (as.find? marksOverride).toList := by
  rw [firstOccurrences_filter (fun _ _ => marksOverride_congr), firstOccurrences_of_same,
    List.head?_filter]
  intro a ha b hb
  exact beq_of_marksOverride (List.mem_filter.mp ha).2 (List.mem_filter.mp hb).2

/-- The first mark that was supplied stands after what is kept of the annotations before
    it. -/
theorem firstOccurrences_mark {a : AnnotationExpr} {before after : List AnnotationExpr}
    (ha : a.marksOverride = true) (hbefore : ∀ b ∈ before, b.marksOverride = false) :
    firstOccurrences (before ++ a :: after) =
      firstOccurrences before ++ a :: firstsAfter (before ++ [a]) after := by
  refine firstOccurrences_split (fun b hb => ?_)
  -- What is the same as a mark is one, and there is none before this.
  by_contra hsame
  rw [Bool.not_eq_false] at hsame
  have hmark : b.marksOverride = true := by rw [marksOverride_congr hsame, ha]
  rw [hbefore b hb] at hmark
  cases hmark

end AnnotationExpr

namespace Method

/-- Annotations, and whether a method overrides another, make no difference to whether the
    method is made and to anything else about it. -/
theorem Parts.build_annotated (p : Parts) (annotations : List AnnotationExpr)
    (isOverride : Bool) :
    { p with annotations, isOverride }.build =
      (fun m => { m with
        annotations := { p with annotations, isOverride }.annotationSet
        isOverride }) <$> p.build := by
  unfold build
  simp only [map_bind, map_pure]
  rfl

/-- A method that overrides another has the annotations that were supplied, without the
    marks among them and each where it came first, and after them the mark, which stands
    nowhere else. A method that overrides nothing has all that were supplied, each where it
    came first. If the mark is among them, it is so once, after what came before it. No
    annotations and no choice of overriding would have kept the method from being made, or
    changed anything else about it. -/
theorem override_mark_last_and_once (p : Parts) (m : Method) (h : p.build.outcome = .ok m) :
    (p.isOverride = true →
      m.annotations =
        firstOccurrences (p.annotations.filter (fun a => !a.marksOverride)) ++ [.overrideMarker] ∧
      m.annotations.filter AnnotationExpr.marksOverride = [.overrideMarker]) ∧
    (p.isOverride = false →
      m.annotations = firstOccurrences p.annotations ∧
      m.annotations.filter AnnotationExpr.marksOverride =
        (p.annotations.find? AnnotationExpr.marksOverride).toList ∧
      ∀ before a after, p.annotations = before ++ a :: after → a.marksOverride = true →
        (∀ b ∈ before, b.marksOverride = false) →
        m.annotations = firstOccurrences before ++ a :: firstsAfter (before ++ [a]) after) ∧
    ∀ annotations isOverride, ∃ stored, { p with annotations, isOverride }.build.outcome =
      .ok { m with annotations := stored, isOverride } := by
  have hmade := (madeOf_of_build h).annotations
  refine ⟨fun hoverride => ?_, fun hoverride => ?_, fun annotations isOverride => ?_⟩
  · have hothers : m.annotations =
        firstOccurrences (p.annotations.filter (fun a => !a.marksOverride)) ++
          [.overrideMarker] := by
      rw [hmade, if_pos hoverride, ← AnnotationExpr.filter_others_firstOccurrences]
      rfl
    refine ⟨hothers, ?_⟩
    rw [hothers, List.filter_append, AnnotationExpr.filter_marksOverride_others]
    rfl
  · have hall : m.annotations = firstOccurrences p.annotations := by
      rw [hmade, hoverride]
      rfl
    refine ⟨hall, ?_, fun before a after hsplit ha hbefore => ?_⟩
    · rw [hall, AnnotationExpr.filter_marksOverride_firstOccurrences]
    · rw [hall, hsplit, AnnotationExpr.firstOccurrences_mark ha hbefore]
  · refine ⟨{ p with annotations, isOverride }.annotationSet, ?_⟩
    rw [Parts.build_annotated, Build.outcome_map, h]
    rfl

/-- A method that is supplied with the mark twice, once with a superclass, and with
    annotations that look like it. -/
def Parts.closeMarked (isOverride : Bool) : Parts :=
  { Parts.close with
    annotations :=
      [⟨.reference (.javaLang "Override") false, some "all"⟩,
        ⟨.reference ⟨"java.lang", [], "Override", [], some (.javaLang "Object")⟩ false, none⟩,
        .deprecatedMarker, .overrideMarker,
        ⟨.reference (.javaLang "Override") true, none⟩,
        .deprecatedMarker]
    isOverride }

theorem override_mark_among_lookalikes :
    (∃ m, (Parts.closeMarked true).build.outcome = .ok m ∧ m.annotations =
      [⟨.reference (.javaLang "Override") false, some "all"⟩, .deprecatedMarker,
        ⟨.reference (.javaLang "Override") true, none⟩, .overrideMarker]) ∧
    ∃ m, (Parts.closeMarked false).build.outcome = .ok m ∧ m.annotations =
      [⟨.reference (.javaLang "Override") false, some "all"⟩,
        ⟨.reference ⟨"java.lang", [], "Override", [], some (.javaLang "Object")⟩ false, none⟩,
        .deprecatedMarker, ⟨.reference (.javaLang "Override") true, none⟩] := by
  refine ⟨⟨_, rfl, ?_⟩, ⟨_, rfl, ?_⟩⟩
  · rw [((override_mark_last_and_once (Parts.closeMarked true) _ rfl).1 rfl).1]
    rfl
  · rw [((override_mark_last_and_once (Parts.closeMarked false) _ rfl).2.1 rfl).1]
    rfl

end Method

end JavaSource
