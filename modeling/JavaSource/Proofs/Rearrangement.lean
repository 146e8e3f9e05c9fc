import JavaSource.Proofs.Declarations
import JavaSource.Proofs.SameImports

/-!
# Rearranged Parts

The annotations of a class and the types it implements come as lists and are meant as
sets. A caller that fills them in another order, or names a member twice, should get the
same class, the same refusal if it gets one, and the same imports in the end.

Two things stand in the way. Of several members that are the same the builder keeps the
one that comes first, so rearranged lists leave behind different members, which may know
different superclasses, in a different order. And the builder looks at what is kept, so
it looks at different types in a different order.

It asks little of them, however: whether the extended type is among them, and whether
all are made of classes. Neither depends on which of several members that are the same is
looked at, or when. The builder therefore goes through the same checks with the same
results, and with rearranged lists it is the builder it was except for the two sets that
it puts into the finished class (`ClassDecl.Parts.build_rearranged`). That is an equation
between builders, so it covers refusals along with everything that is reported.

The finished classes then have the same members in their sets, which is all that sameness
asks, and the imports follow from `Outline.effect_ofClass_congr`.

## Main definitions

* `SameElements`: Two lists have the same members, in any order and number.
* `ClassDecl.Parts.SameButForOrder`: The parts of two classes are the same but for the
  order and number of their annotations and implemented types.

## Theorems

* `sameElements_iff`: Lists have the same members if their images are equal as sets.
* `members_eraseDups`: What is kept of a list stands for the whole list.
* `contains_eraseDups`, `any_eraseDups`: What the builder asks depends on the set alone.
* `ClassDecl.Parts.build_rearranged`: The builder with rearranged lists.
* `ClassDecl.view_rearranged`: Classes with the same members in their sets are the same.
* `ClassDecl.rearranged_parts_make_same_class`: Rearranged parts are refused alike, or
  make the same class, which needs the same imports.
-/

namespace JavaSource

/-! ### Lists as sets -/

/-- Each member of one list is the same as a member of the other, and conversely. -/
def SameElements {α : Type} [BEq α] (xs ys : List α) : Prop :=
  (∀ x ∈ xs, ∃ y ∈ ys, (x == y) = true) ∧ ∀ y ∈ ys, ∃ x ∈ xs, (y == x) = true

instance {α : Type} [BEq α] (xs ys : List α) : Decidable (SameElements xs ys) :=
  inferInstanceAs (Decidable (_ ∧ _))

section Sets

variable {α β : Type} [BEq α] {f : α → β} {xs ys : List α}

theorem sameElements_iff (h : ∀ x y : α, (x == y) = true ↔ f x = f y) :
    SameElements xs ys ↔ members (xs.map f) = members (ys.map f) := by
  have hhalf : ∀ us vs : List α,
      (∀ x ∈ us, ∃ y ∈ vs, (x == y) = true) ↔ members (us.map f) ⊆ members (vs.map f) := by
    intro us vs
    simp only [Set.subset_def, mem_members, List.mem_map, h, forall_exists_index, and_imp,
      forall_apply_eq_imp_iff₂]
    simp only [eq_comm]
  rw [SameElements, hhalf xs ys, hhalf ys xs, Set.Subset.antisymm_iff]

/-- Each member is the same as one that is kept, and no others are kept. -/
theorem members_eraseDups (h : ∀ x y : α, (x == y) = true ↔ f x = f y) :
    members (xs.eraseDups.map f) = members (xs.map f) := by
  ext b
  simp only [mem_members, List.mem_map]
  constructor
  · rintro ⟨x, hx, rfl⟩
    exact ⟨x, mem_of_mem_eraseDups hx, rfl⟩
  · rintro ⟨x, hx, rfl⟩
    exact exists_mem_eraseDups h hx

/-- What is kept of the lists has the same members if the lists do. -/
theorem SameElements.eraseDups (h : ∀ x y : α, (x == y) = true ↔ f x = f y)
    (hsame : SameElements xs ys) : SameElements xs.eraseDups ys.eraseDups := by
  rw [sameElements_iff h, members_eraseDups h, members_eraseDups h]
  exact (sameElements_iff h).mp hsame

/-- Whether there is something the same among what is kept depends on the set alone. -/
theorem contains_eraseDups (h : ∀ x y : α, (x == y) = true ↔ f x = f y)
    (hsame : SameElements xs ys) (x : α) : xs.eraseDups.contains x = ys.eraseDups.contains x := by
  have hcontains : ∀ us : List α,
      us.eraseDups.contains x = true ↔ f x ∈ members (us.map f) := by
    intro us
    rw [← members_eraseDups h, List.contains_iff_exists_mem_beq, mem_members, List.mem_map]
    simp only [h, eq_comm]
  rw [Bool.eq_iff_iff, hcontains xs, hcontains ys, (sameElements_iff h).mp hsame]

/-- Whether some member that is kept has a property, of which sameness does not tell more,
    depends on the set alone. -/
theorem any_eraseDups (h : ∀ x y : α, (x == y) = true ↔ f x = f y) {P : β → Bool}
    (hsame : SameElements xs ys) :
    xs.eraseDups.any (fun x => P (f x)) = ys.eraseDups.any (fun x => P (f x)) := by
  have hany : ∀ us : List α,
      us.eraseDups.any (fun x => P (f x)) = true ↔ ∃ b ∈ members (us.map f), P b = true := by
    intro us
    rw [← members_eraseDups h, List.any_eq_true]
    simp only [mem_members, List.mem_map, exists_exists_and_eq_and]
  rw [Bool.eq_iff_iff, hany xs, hany ys, (sameElements_iff h).mp hsame]

end Sets

/-! ### Classes -/

namespace ClassDecl

namespace Parts

/-- The parts differ at most in the order and number of annotations and of implemented
    types. -/
structure SameButForOrder (p q : Parts) : Prop where
  annotations : SameElements p.annotations q.annotations
  implementsTypes : SameElements p.implementsTypes q.implementsTypes
  others : q = { p with annotations := q.annotations, implementsTypes := q.implementsTypes }

variable {p : Parts} {implementsTypes : List JavaType}

theorem checkExtends_rearranged (annotations : List AnnotationExpr)
    (h : SameElements p.implementsTypes implementsTypes) :
    { p with annotations, implementsTypes }.checkExtends = p.checkExtends := by
  unfold checkExtends implementsSet
  simp only [contains_eraseDups JavaType.beq_iff h]

theorem any_implementsSet_rearranged (annotations : List AnnotationExpr)
    (h : SameElements p.implementsTypes implementsTypes) :
    { p with annotations, implementsTypes }.implementsSet.any (fun t => !t.isReference) =
      p.implementsSet.any (fun t => !t.isReference) := by
  -- Whether a type is made of a class can be seen without superclasses.
  have hbare := any_eraseDups (P := fun t => !t.isReference) JavaType.beq_iff h
  simp only [JavaType.isReference_bare] at hbare
  exact hbare.symm

/-- With rearranged lists the builder makes the same checks to the same effect, and puts
    other sets into the finished class. -/
theorem build_rearranged (annotations : List AnnotationExpr)
    (h : SameElements p.implementsTypes implementsTypes) :
    { p with annotations, implementsTypes }.build =
      (fun c => { c with
        annotations := annotations.eraseDups
        implementsTypes := implementsTypes.eraseDups }) <$> p.build := by
  have hextends := checkExtends_rearranged annotations h
  have himplements := any_implementsSet_rearranged annotations h
  unfold build
  simp only [hextends, himplements, map_bind]
  -- The rest of the builder follows the choice, once for each of its sides.
  cases p.isNested with
  | true => simp only [if_true, map_bind, map_pure]; rfl
  | false => simp only [Bool.false_eq_true, if_false, map_bind, map_pure]; rfl

end Parts

/-- Classes that differ at most in their sets are the same if the sets have the same
    members. -/
theorem view_rearranged {c : ClassDecl} {annotations : List AnnotationExpr}
    {implementsTypes : List JavaType} (ha : SameElements c.annotations annotations)
    (hi : SameElements c.implementsTypes implementsTypes) :
    c.view = { c with annotations, implementsTypes }.view := by
  rw [sameElements_iff AnnotationExpr.beq_iff] at ha
  rw [sameElements_iff JavaType.beq_iff] at hi
  cases c
  simp only [view, ha, hi]

/-- Two classes that are given the same parts, but for the order and the number of their
    annotations and implemented types, are refused with the same error or both made. Those
    made are the same, and a pass over them for imports, whatever has been collected before,
    ends in the same way and leaves the same names of both kinds. -/
theorem rearranged_parts_make_same_class (p q : Parts) (h : p.SameButForOrder q) :
    (∃ e, p.build.outcome = .error e ∧ q.build.outcome = .error e) ∨
    ∃ c d, p.build.outcome = .ok c ∧ q.build.outcome = .ok d ∧ (c == d) = true ∧
      ∀ i : Imports,
        (i.visit (.ofClass c)).value.1 = (i.visit (.ofClass d)).value.1 ∧
        (∀ a, a ∈ (i.visit (.ofClass c)).value.2.statics ↔
          a ∈ (i.visit (.ofClass d)).value.2.statics) ∧
        ∀ a, a ∈ (i.visit (.ofClass c)).value.2.plains ↔
          a ∈ (i.visit (.ofClass d)).value.2.plains := by
  have hbuild : q.build.outcome = p.build.outcome.map (fun c => { c with
      annotations := q.annotations.eraseDups
      implementsTypes := q.implementsTypes.eraseDups }) := by
    rw [h.others, Parts.build_rearranged q.annotations h.implementsTypes, Build.outcome_map]
  -- A refusal is handed on as it is. A finished class has its sets exchanged.
  cases hp : p.build.outcome with
  | error e =>
      rw [hp] at hbuild
      exact Or.inl ⟨e, rfl, hbuild⟩
  | ok c =>
      rw [hp] at hbuild
      have hmade := madeOf_of_build hp
      have hannotations : SameElements c.annotations q.annotations.eraseDups := by
        rw [hmade.annotations, ← eraseDups_eq_firstOccurrences AnnotationExpr.beq_iff]
        exact h.annotations.eraseDups AnnotationExpr.beq_iff
      have himplements : SameElements c.implementsTypes q.implementsTypes.eraseDups := by
        rw [hmade.implementsTypes, ← eraseDups_eq_firstOccurrences JavaType.beq_iff]
        exact h.implementsTypes.eraseDups JavaType.beq_iff
      have hview := view_rearranged hannotations himplements
      have heffect := Outline.effect_ofClass_congr hview
      refine Or.inr ⟨c, _, rfl, hbuild, (c.beq_iff _).mpr hview, fun i => ?_⟩
      rcases Imports.visit_eq_of_effect_eq (i := i) heffect with ⟨hending, hnames⟩
      exact ⟨hending, hnames true, hnames false⟩

/-- A class that implements `List<Book>` and `Closeable`, and extends a class of `java.io`.
    Something may be known about the superclass of `Book`. -/
def Parts.shelfOf (declaredSuper : Option Reference) (extended : String) : Parts :=
  { Parts.page with
    annotations := [.deprecatedMarker, .suppressWarnings "all"]
    implementsTypes :=
      [.reference ⟨"java.util", [], "List", [⟨"org.book", [], "Book", [], declaredSuper⟩], none⟩
        false,
      .reference (.topLevel "java.io" "Closeable") false]
    extendsType := some (.reference (.topLevel "java.io" extended) false) }

/-- The parts with both lists turned round and one member of each repeated. -/
def Parts.turned (p : Parts) : Parts :=
  { p with
    annotations := p.annotations.reverse ++ p.annotations.head?.toList
    implementsTypes := p.implementsTypes.getLast?.toList ++ p.implementsTypes.reverse }

theorem rearranged_shelf_is_same :
    let work := some (Reference.topLevel "org.book" "Work")
    (Parts.shelfOf none "Reader").SameButForOrder (Parts.shelfOf work "Reader").turned ∧
    (∃ c d, (Parts.shelfOf none "Reader").build.outcome = .ok c ∧
      (Parts.shelfOf work "Reader").turned.build.outcome = .ok d ∧ (c == d) = true) ∧
    ∃ e, (Parts.shelfOf none "Closeable").build.outcome = .error e ∧
      (Parts.shelfOf work "Closeable").turned.build.outcome = .error e := by
  intro work
  have hannotations : SameElements (Parts.shelfOf none "Reader").annotations
      (Parts.shelfOf work "Reader").turned.annotations := by decide +kernel
  have himplements : SameElements (Parts.shelfOf none "Reader").implementsTypes
      (Parts.shelfOf work "Reader").turned.implementsTypes := by decide +kernel
  have hbuilt : ∃ c, (Parts.shelfOf none "Reader").build.outcome = .ok c := ⟨_, rfl⟩
  have hrefused : ∃ e, (Parts.shelfOf none "Closeable").build.outcome = .error e := ⟨_, rfl⟩
  refine ⟨⟨hannotations, himplements, rfl⟩, ?_, ?_⟩
  · rcases rearranged_parts_make_same_class _ _ ⟨hannotations, himplements, rfl⟩ with
      ⟨e, he, _⟩ | ⟨c, d, hc, hd, hsame, _⟩
    · rcases hbuilt with ⟨c, hc⟩
      rw [hc] at he
      cases he
    · exact ⟨c, d, hc, hd, hsame⟩
  · rcases rearranged_parts_make_same_class (Parts.shelfOf none "Closeable")
      (Parts.shelfOf work "Closeable").turned ⟨hannotations, himplements, rfl⟩ with
      hboth | ⟨c, _, hc, _⟩
    · exact hboth
    · rcases hrefused with ⟨e, he⟩
      rw [hc] at he
      cases he

end ClassDecl

end JavaSource
