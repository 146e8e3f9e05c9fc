import JavaSource.Proofs.Induction
import Mathlib.Data.List.Forall2
import Mathlib.Data.Set.Basic

/-!
# Sameness

Two trees are the same if they differ only in what does not count: what is known
about superclasses, at whatever depth, and the order of what stands for a set.
The tests for sameness compare two trees at once. Here each of them is replaced
by a function of one tree, which throws away what does not count: two trees are
the same exactly if they become equal under it.

That settles at once that sameness is an equivalence, which cannot be read off
the tests. It also says what may depend on a tree if the same trees are to be
treated alike: what can be seen from its image.

Of references, expressions and statements the image is a tree of the same sort
(`bare`). Methods and classes have sets among their parts, and no order of a set
is better than another; their images are records of their own (`View`).

Of references and types the same is also said outright, part by part (`Alike`),
for statements that should not mention an image.

## Main definitions

* `members`: The set that a list stands for.
* `Reference.bare`, `JavaType.bare`, `AnnotationExpr.bare`, `Variable.bare`,
  `VariableExpr.bare`, `Expr.bare`, `Assignment.bare`, `Stmt.bare`: What is left
  without the superclasses.
* `Reference.Alike`, `JavaType.Alike`: References and types that agree in all
  parts that count.
* `Method.View`, `ClassDecl.View`: What is left of a method and of a class.

## Theorems

* `list_beq_iff`, `option_beq_iff`, `sameMembers_iff`: Sameness of collections,
  given that of their members.
* `Reference.beq_iff`, `Expr.beq_iff`, `Stmt.beq_iff`, `Method.beq_iff`,
  `ClassDecl.beq_iff` and their companions: Trees are the same exactly if their
  images are equal.
* `JavaType.beq_iff_alike`: Types are the same exactly if they agree.
* `ClassDecl.beq_equivalence`: Sameness of classes is an equivalence.
-/

namespace JavaSource

/-! ### Collections -/

/-- The members of a list, without order and number. -/
def members {α : Type} (xs : List α) : Set α :=
  {x | x ∈ xs}

@[simp]
theorem mem_members {α : Type} {x : α} {xs : List α} : x ∈ members xs ↔ x ∈ xs :=
  Iff.rfl

theorem members_map_congr {α β : Type} {f : α → β} {xs ys : List α} (h : members xs = members ys) :
    members (xs.map f) = members (ys.map f) := by
  have hmem : ∀ x, x ∈ xs ↔ x ∈ ys := fun x => Set.ext_iff.mp h x
  ext b
  simp only [mem_members, List.mem_map, hmem]

section Collections

variable {α β : Type} [BEq α] {f : α → β} {xs ys : List α}

/-- Lists are the same exactly if their images are equal place by place. -/
theorem list_beq_iff (h : ∀ x ∈ xs, ∀ y, (x == y) = true ↔ f x = f y) :
    (xs == ys) = true ↔ xs.map f = ys.map f := by
  induction xs generalizing ys with
  | nil => cases ys <;> simp
  | cons x xs ih =>
      rw [List.forall_mem_cons] at h
      cases ys with
      | nil => simp
      | cons y ys =>
          rw [List.cons_beq_cons, Bool.and_eq_true, h.1, ih h.2, List.map_cons, List.map_cons,
            List.cons.injEq]

theorem option_beq_iff {o p : Option α} (h : ∀ x ∈ o, ∀ y, (x == y) = true ↔ f x = f y) :
    (o == p) = true ↔ o.map f = p.map f := by
  cases o with
  | none => cases p <;> simp
  | some x =>
      cases p with
      | none => simp
      | some y =>
          rw [Option.some_beq_some, h x rfl, Option.map_some, Option.map_some, Option.some.injEq]

theorem all_contains_iff (h : ∀ x y, (x == y) = true ↔ f x = f y) :
    xs.all (fun x => ys.contains x) = true ↔ members (xs.map f) ⊆ members (ys.map f) := by
  have hcontains : ∀ x, ys.contains x = true ↔ f x ∈ members (ys.map f) := by
    intro x
    rw [List.contains_iff_exists_mem_beq, mem_members, List.mem_map]
    simp only [h, eq_comm]
  simp only [List.all_eq_true, hcontains, Set.subset_def, mem_members, List.forall_mem_map]

/-- Lists have the same members exactly if the images are equal as sets. -/
theorem sameMembers_iff (h : ∀ x y, (x == y) = true ↔ f x = f y) :
    sameMembers xs ys = true ↔ members (xs.map f) = members (ys.map f) := by
  rw [sameMembers, Bool.and_eq_true, all_contains_iff h, all_contains_iff h,
    Set.Subset.antisymm_iff]

/-- A test that goes through two lists place by place is that for sameness of
    lists. -/
theorem eq_list_beq {all : List α → List α → Bool} (nil : all [] [] = true)
    (nil_cons : ∀ y ys, all [] (y :: ys) = false) (cons_nil : ∀ x xs, all (x :: xs) [] = false)
    (cons : ∀ x xs y ys, all (x :: xs) (y :: ys) = (x == y && all xs ys)) (xs ys : List α) :
    all xs ys = (xs == ys) := by
  induction xs generalizing ys with
  | nil =>
      cases ys with
      | nil => exact nil
      | cons y ys => exact nil_cons y ys
  | cons x xs ih =>
      cases ys with
      | nil => exact cons_nil x xs
      | cons y ys => rw [cons, ih, List.cons_beq_cons]

end Collections

/-! ### References and types -/

namespace Reference

mutual

/-- A reference without what is known about superclasses, its own and those of
    its generic arguments. -/
def bare : Reference → Reference
  | ⟨package, enclosing, name, generics, _⟩ => ⟨package, enclosing, name, bareAll generics, none⟩

def bareAll : List Reference → List Reference
  | [] => []
  | r :: rs => bare r :: bareAll rs

end

theorem bareAll_eq_map (rs : List Reference) : bareAll rs = rs.map bare :=
  eq_list_map rfl (fun _ _ => rfl) rs

theorem beqAll_eq (rs rs' : List Reference) : beqAll rs rs' = (rs == rs') :=
  eq_list_beq rfl (fun _ _ => rfl) (fun _ _ => rfl) (fun _ _ _ _ => rfl) rs rs'

theorem beq_iff (r r' : Reference) : (r == r') = true ↔ r.bare = r'.bare := by
  change beq r r' = true ↔ _
  induction r using Reference.inductionOn generalizing r' with
  | step r ih =>
      rcases r with ⟨package, enclosing, name, generics, declaredSuper⟩
      rcases r' with ⟨package', enclosing', name', generics', declaredSuper'⟩
      -- The superclasses are neither compared nor kept.
      rw [beq, bare, bare, beqAll_eq, bareAll_eq_map, bareAll_eq_map, mk.injEq]
      simp only [Bool.and_eq_true, beq_iff_eq, list_beq_iff ih, and_true, and_assoc]

theorem package_bare (r : Reference) : r.bare.package = r.package := by
  cases r
  rfl

theorem isNested_bare (r : Reference) : r.bare.isNested = r.isNested := by
  cases r
  rfl

theorem fullName_bare (r : Reference) : r.bare.fullName = r.fullName := by
  cases r
  rfl

theorem bare_bare (r : Reference) : r.bare.bare = r.bare := by
  induction r using Reference.inductionOn with
  | step r ih =>
      rcases r with ⟨package, enclosing, name, generics, declaredSuper⟩
      have hgenerics : generics.map (bare ∘ bare) = generics.map bare := List.map_congr_left ih
      simp only [bare, bareAll_eq_map, List.map_map, hgenerics]

end Reference

namespace JavaType

def bare : JavaType → JavaType
  | void => void
  | primitive p isArray => primitive p isArray
  | reference r isArray => reference r.bare isArray

theorem beq_iff (t t' : JavaType) : (t == t') = true ↔ t.bare = t'.bare := by
  change beq t t' = true ↔ _
  cases t with
  | void => cases t' <;> simp [beq, bare]
  | primitive p isArray => cases t' <;> simp [beq, bare]
  | reference r isArray => cases t' <;> simp [beq, bare, Reference.beq_iff]

theorem isReference_bare (t : JavaType) : t.bare.isReference = t.isReference := by
  cases t <;> rfl

end JavaType

/-- Two references agree in package, enclosing types and name, and their generic
    arguments agree in the same way, one by one. -/
inductive Reference.Alike : Reference → Reference → Prop where
  | intro {r s : Reference} (package : r.package = s.package)
      (enclosing : r.enclosing = s.enclosing) (name : r.name = s.name)
      (generics : List.Forall₂ Alike r.generics s.generics) : Alike r s

/-- Two types are of one kind, both of them arrays or neither, and made of classes
    that agree if they are made of classes. -/
structure JavaType.Alike (t u : JavaType) : Prop where
  kind : t.kind = u.kind
  isArray : t.isArray = u.isArray
  reference : Option.Rel Reference.Alike t.reference? u.reference?

theorem Reference.alike_iff {r s : Reference} :
    r.Alike s ↔ r.package = s.package ∧ r.enclosing = s.enclosing ∧ r.name = s.name ∧
      List.Forall₂ Alike r.generics s.generics := by
  constructor
  · rintro ⟨package, enclosing, name, generics⟩
    exact ⟨package, enclosing, name, generics⟩
  · rintro ⟨package, enclosing, name, generics⟩
    exact ⟨package, enclosing, name, generics⟩

theorem Reference.bare_eq_iff_alike (r s : Reference) : r.bare = s.bare ↔ r.Alike s := by
  induction r using Reference.inductionOn generalizing s with
  | step r ih =>
      -- Lists with equal images are lists of references that agree one by one.
      have hgenerics : ∀ gs : List Reference,
          r.generics.map bare = gs.map bare ↔ List.Forall₂ Alike r.generics gs := by
        intro gs
        rw [← List.forall₂_eq_eq_eq, List.forall₂_map_left_iff, List.forall₂_map_right_iff,
          List.forall₂_iff_zip, List.forall₂_iff_zip]
        refine and_congr_right (fun _ => ?_)
        exact ⟨fun h a b hab => (ih a (List.of_mem_zip hab).1 b).mp (h hab),
          fun h a b hab => (ih a (List.of_mem_zip hab).1 b).mpr (h hab)⟩
      rw [alike_iff, ← hgenerics]
      cases r
      cases s
      simp only [bare, bareAll_eq_map, mk.injEq, and_true]

namespace Primitive

theorem kind_inj {p q : Primitive} : p.kind = q.kind ↔ p = q := by
  cases p <;> cases q <;> decide

theorem kind_ne_void (p : Primitive) : p.kind ≠ .void := by
  cases p <;> decide

theorem kind_ne_object (p : Primitive) : p.kind ≠ .object := by
  cases p <;> decide

end Primitive

theorem JavaType.beq_iff_alike (t u : JavaType) : (t == u) = true ↔ t.Alike u := by
  have hparts : t.Alike u ↔ t.kind = u.kind ∧ t.isArray = u.isArray ∧
      Option.Rel Reference.Alike t.reference? u.reference? :=
    ⟨fun h => ⟨h.kind, h.isArray, h.reference⟩, fun ⟨hk, ha, hr⟩ => ⟨hk, ha, hr⟩⟩
  rw [beq_iff, hparts]
  -- Types of different shapes are of different kinds; simp closes these cases.
  cases t with
  | void => cases u <;> simp [bare, kind, reference?, (Primitive.kind_ne_void _).symm]
  | primitive p isArray =>
      cases u with
      | primitive q isArray' =>
          simp [bare, kind, JavaType.isArray, reference?, Primitive.kind_inj]
      | void => simp [bare, kind, p.kind_ne_void]
      | reference s isArray' => simp [bare, kind, p.kind_ne_object]
  | reference r isArray =>
      cases u with
      | reference s isArray' =>
          simp [bare, kind, JavaType.isArray, reference?, Reference.bare_eq_iff_alike, and_comm]
      | void => simp [bare, kind]
      | primitive q isArray' => simp [bare, kind, q.kind_ne_object.symm]

namespace AnnotationExpr

def bare (a : AnnotationExpr) : AnnotationExpr :=
  ⟨a.type.bare, a.value⟩

theorem beq_iff (a a' : AnnotationExpr) : (a == a') = true ↔ a.bare = a'.bare := by
  change beq a a' = true ↔ _
  rw [beq, bare, bare, mk.injEq, Bool.and_eq_true, JavaType.beq_iff, beq_iff_eq]

end AnnotationExpr

/-! ### Expressions -/

namespace Variable

def bare (v : Variable) : Variable :=
  ⟨v.identifier, v.type.bare⟩

theorem beq_iff (v v' : Variable) : (v == v') = true ↔ v.bare = v'.bare := by
  change beq v v' = true ↔ _
  rw [beq, bare, bare, mk.injEq, Bool.and_eq_true, JavaType.beq_iff, beq_iff_eq]

end Variable

namespace VariableExpr

def bare (v : VariableExpr) : VariableExpr :=
  ⟨v.var.bare, v.isDeclaration, v.scope⟩

theorem beq_iff (v v' : VariableExpr) : (v == v') = true ↔ v.bare = v'.bare := by
  change beq v v' = true ↔ _
  rw [beq, bare, bare, mk.injEq]
  simp only [Bool.and_eq_true, Variable.beq_iff, beq_iff_eq, and_assoc]

end VariableExpr

namespace Expr

mutual

/-- An expression without superclasses. -/
def bare : Expr → Expr
  | literal type text => literal type.bare text
  | string text => string text
  | var v => var v.bare
  | assignment target value => assignment target.bare (bare value)
  | call receiver qualifier method returnType arguments generics =>
    call (bareOption receiver) qualifier method returnType.bare (bareAll arguments)
      (generics.map Reference.bare)

def bareOption : Option Expr → Option Expr
  | none => none
  | some e => some (bare e)

def bareAll : List Expr → List Expr
  | [] => []
  | e :: es => bare e :: bareAll es

end

theorem bareOption_eq_map (o : Option Expr) : bareOption o = o.map bare := by
  cases o <;> rfl

theorem bareAll_eq_map (es : List Expr) : bareAll es = es.map bare :=
  eq_list_map rfl (fun _ _ => rfl) es

theorem beqOption_eq (o o' : Option Expr) : beqOption o o' = (o == o') := by
  cases o <;> cases o' <;> rfl

theorem beqAll_eq (es es' : List Expr) : beqAll es es' = (es == es') :=
  eq_list_beq rfl (fun _ _ => rfl) (fun _ _ => rfl) (fun _ _ _ _ => rfl) es es'

theorem beq_iff (e e' : Expr) : (e == e') = true ↔ e.bare = e'.bare := by
  change beq e e' = true ↔ _
  -- Expressions of different kinds are not the same, and their images are of
  -- different kinds too; simp closes these cases.
  induction e using Expr.inductionOn generalizing e' with
  | literal type text =>
      cases e' <;> simp [beq, bare, JavaType.beq_iff]
  | string text =>
      cases e' <;> simp [beq, bare]
  | var v =>
      cases e' <;> simp [beq, bare, VariableExpr.beq_iff]
  | assignment target value ih =>
      cases e' with
      | assignment target' value' =>
          simp only [beq, bare, Bool.and_eq_true, VariableExpr.beq_iff, ih, assignment.injEq]
      | _ => simp [beq, bare]
  | call receiver qualifier method returnType arguments generics ihreceiver iharguments =>
      cases e' with
      | call receiver' qualifier' method' returnType' arguments' generics' =>
          have hgenerics : (generics == generics') = true ↔ _ :=
            list_beq_iff (fun r _ r' => r.beq_iff r')
          simp only [beq, bare, beqOption_eq, beqAll_eq, bareOption_eq_map, bareAll_eq_map,
            Bool.and_eq_true, option_beq_iff ihreceiver, list_beq_iff iharguments, hgenerics,
            JavaType.beq_iff, beq_iff_eq, call.injEq, and_assoc]
      | _ => simp [beq, bare]

end Expr

namespace Assignment

def bare (a : Assignment) : Assignment :=
  ⟨a.target.bare, a.value.bare⟩

theorem beq_iff (a a' : Assignment) : (a == a') = true ↔ a.bare = a'.bare := by
  change beq a a' = true ↔ _
  rw [beq, bare, bare, mk.injEq, Bool.and_eq_true, VariableExpr.beq_iff, Expr.beq_iff]

end Assignment

/-! ### Statements -/

namespace Stmt

mutual

/-- A statement without superclasses. -/
def bare : Stmt → Stmt
  | expr e => expr e.bare
  | ifElse condition body elseIfs elseBody =>
    ifElse condition.bare (bareAll body) (bareBranches elseIfs) (bareAll elseBody)
  | forEach loopVariable collection body =>
    forEach loopVariable.bare collection.bare (bareAll body)
  | whileLoop condition body => whileLoop condition.bare (bareAll body)
  | tryCatch resource body catchVariable catchBody isSample =>
    tryCatch (resource.map Assignment.bare) (bareAll body) (catchVariable.map VariableExpr.bare)
      (bareAll catchBody) isSample

def bareAll : List Stmt → List Stmt
  | [] => []
  | s :: ss => bare s :: bareAll ss

def bareBranches : List (Expr × List Stmt) → List (Expr × List Stmt)
  | [] => []
  | (condition, body) :: rest => (condition.bare, bareAll body) :: bareBranches rest

end

theorem bareAll_eq_map (ss : List Stmt) : bareAll ss = ss.map bare :=
  eq_list_map rfl (fun _ _ => rfl) ss

theorem bareBranches_eq_map (bs : List (Expr × List Stmt)) :
    bareBranches bs = bs.map (fun b => (b.1.bare, b.2.map bare)) :=
  eq_list_map rfl (fun b bs => by rw [bareBranches, bareAll_eq_map]) bs

theorem beqAll_eq (ss ss' : List Stmt) : beqAll ss ss' = (ss == ss') :=
  eq_list_beq rfl (fun _ _ => rfl) (fun _ _ => rfl) (fun _ _ _ _ => rfl) ss ss'

theorem beqBranches_eq (bs bs' : List (Expr × List Stmt)) : beqBranches bs bs' = (bs == bs') := by
  refine eq_list_beq rfl (fun _ _ => rfl) (fun _ _ => rfl) ?_ bs bs'
  intro b bs b' bs'
  rw [beqBranches, beqAll_eq]
  rfl

theorem beq_iff (s s' : Stmt) : (s == s') = true ↔ s.bare = s'.bare := by
  change beq s s' = true ↔ _
  induction s using Stmt.inductionOn generalizing s' with
  | expr e =>
      cases s' <;> simp [beq, bare, Expr.beq_iff]
  | ifElse condition body elseIfs elseBody ihbody ihelseIfs ihelseBody =>
      cases s' with
      | ifElse condition' body' elseIfs' elseBody' =>
          -- A branch is a pair, and the same if both its parts are.
          have hbranches : ∀ b ∈ elseIfs, ∀ b' : Expr × List Stmt,
              (b == b') = true ↔ (b.1.bare, b.2.map bare) = (b'.1.bare, b'.2.map bare) := by
            intro b hb b'
            have hpair : (b == b') = (b.1 == b'.1 && b.2 == b'.2) := rfl
            rw [hpair, Bool.and_eq_true, Expr.beq_iff, list_beq_iff (ihelseIfs b hb),
              Prod.mk.injEq]
          simp only [beq, bare, beqAll_eq, beqBranches_eq, bareAll_eq_map, bareBranches_eq_map,
            Bool.and_eq_true, Expr.beq_iff, list_beq_iff ihbody, list_beq_iff hbranches,
            list_beq_iff ihelseBody, ifElse.injEq, and_assoc]
      | _ => simp [beq, bare]
  | forEach v collection body ihbody =>
      cases s' with
      | forEach v' collection' body' =>
          simp only [beq, bare, beqAll_eq, bareAll_eq_map, Bool.and_eq_true, VariableExpr.beq_iff,
            Expr.beq_iff, list_beq_iff ihbody, forEach.injEq, and_assoc]
      | _ => simp [beq, bare]
  | whileLoop condition body ihbody =>
      cases s' with
      | whileLoop condition' body' =>
          simp only [beq, bare, beqAll_eq, bareAll_eq_map, Bool.and_eq_true, Expr.beq_iff,
            list_beq_iff ihbody, whileLoop.injEq]
      | _ => simp [beq, bare]
  | tryCatch resource body v catchBody isSample ihbody ihcatchBody =>
      cases s' with
      | tryCatch resource' body' v' catchBody' isSample' =>
          have hresource : (resource == resource') = true ↔ _ :=
            option_beq_iff (fun a _ a' => a.beq_iff a')
          have hv : (v == v') = true ↔ _ := option_beq_iff (fun v _ v' => v.beq_iff v')
          simp only [beq, bare, beqAll_eq, bareAll_eq_map, Bool.and_eq_true, hresource, hv,
            list_beq_iff ihbody, list_beq_iff ihcatchBody, beq_iff_eq, tryCatch.injEq, and_assoc]
      | _ => simp [beq, bare]

end Stmt

/-! ### Methods and classes -/

/-- A method without superclasses, whose annotations and declared exceptions are
    sets. -/
structure Method.View where
  scope : Scope
  returnType : JavaType
  identifier : Identifier
  annotations : Set AnnotationExpr
  throwsTypes : Set JavaType
  arguments : List VariableExpr
  isStatic : Bool
  isFinal : Bool
  isAbstract : Bool
  body : List Stmt
  returnExpr : Option Expr
  isOverride : Bool

namespace Method

/-- What counts about a method. -/
def view (m : Method) : View where
  scope := m.scope
  returnType := m.returnType.bare
  identifier := m.identifier
  annotations := members (m.annotations.map AnnotationExpr.bare)
  throwsTypes := members (m.throwsTypes.map JavaType.bare)
  arguments := m.arguments.map VariableExpr.bare
  isStatic := m.isStatic
  isFinal := m.isFinal
  isAbstract := m.isAbstract
  body := m.body.map Stmt.bare
  returnExpr := m.returnExpr.map Expr.bare
  isOverride := m.isOverride

theorem beq_iff (m m' : Method) : (m == m') = true ↔ m.view = m'.view := by
  change beq m m' = true ↔ _
  have harguments : (m.arguments == m'.arguments) = true ↔ _ :=
    list_beq_iff (fun v _ v' => v.beq_iff v')
  have hbody : (m.body == m'.body) = true ↔ _ := list_beq_iff (fun s _ s' => s.beq_iff s')
  have hreturn : (m.returnExpr == m'.returnExpr) = true ↔ _ :=
    option_beq_iff (fun e _ e' => e.beq_iff e')
  simp only [beq, view, Bool.and_eq_true, beq_iff_eq, JavaType.beq_iff,
    sameMembers_iff AnnotationExpr.beq_iff, sameMembers_iff JavaType.beq_iff, harguments, hbody,
    hreturn, View.mk.injEq, and_assoc]

end Method

/-- A class without superclasses, whose annotations and implemented types are
    sets, and so for its methods and the classes it encloses. -/
structure ClassDecl.View where
  scope : Scope
  identifier : Identifier
  package : Option String
  isNested : Bool
  annotations : Set AnnotationExpr
  implementsTypes : Set JavaType
  extendsType : Option JavaType
  isStatic : Bool
  isFinal : Bool
  isAbstract : Bool
  statements : List Stmt
  methods : List Method.View
  classes : List ClassDecl.View

namespace ClassDecl

mutual

/-- What counts about a class. -/
def view : ClassDecl → View
  | ⟨scope, identifier, package, isNested, annotations, implementsTypes, extendsType, isStatic,
      isFinal, isAbstract, statements, methods, classes⟩ =>
    { scope, identifier, package, isNested
      annotations := members (annotations.map AnnotationExpr.bare)
      implementsTypes := members (implementsTypes.map JavaType.bare)
      extendsType := extendsType.map JavaType.bare
      isStatic, isFinal, isAbstract
      statements := statements.map Stmt.bare
      methods := methods.map Method.view
      classes := viewAll classes }

def viewAll : List ClassDecl → List View
  | [] => []
  | c :: cs => view c :: viewAll cs

end

theorem viewAll_eq_map (cs : List ClassDecl) : viewAll cs = cs.map view :=
  eq_list_map rfl (fun _ _ => rfl) cs

theorem beqAll_eq (cs cs' : List ClassDecl) : beqAll cs cs' = (cs == cs') :=
  eq_list_beq rfl (fun _ _ => rfl) (fun _ _ => rfl) (fun _ _ _ _ => rfl) cs cs'

theorem beq_iff (c c' : ClassDecl) : (c == c') = true ↔ c.view = c'.view := by
  change beq c c' = true ↔ _
  induction c using ClassDecl.inductionOn generalizing c' with
  | step c ih =>
      rcases c with ⟨scope, identifier, package, isNested, annotations, implementsTypes,
        extendsType, isStatic, isFinal, isAbstract, statements, methods, classes⟩
      rcases c' with ⟨scope', identifier', package', isNested', annotations', implementsTypes',
        extendsType', isStatic', isFinal', isAbstract', statements', methods', classes'⟩
      have hextends : (extendsType == extendsType') = true ↔ _ :=
        option_beq_iff (fun t _ t' => t.beq_iff t')
      have hstatements : (statements == statements') = true ↔ _ :=
        list_beq_iff (fun s _ s' => s.beq_iff s')
      have hmethods : (methods == methods') = true ↔ _ :=
        list_beq_iff (fun m _ m' => m.beq_iff m')
      simp only [beq, view, beqAll_eq, viewAll_eq_map, Bool.and_eq_true, beq_iff_eq,
        sameMembers_iff AnnotationExpr.beq_iff, sameMembers_iff JavaType.beq_iff, hextends,
        hstatements, hmethods, list_beq_iff ih, View.mk.injEq, and_assoc]

/-- Sameness of classes is an equivalence. -/
theorem beq_equivalence : Equivalence (fun c d : ClassDecl => (c == d) = true) := by
  simp only [beq_iff]
  exact ⟨fun _ => rfl, Eq.symm, Eq.trans⟩

end ClassDecl

end JavaSource
