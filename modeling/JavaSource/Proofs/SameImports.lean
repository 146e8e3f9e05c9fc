import JavaSource.Proofs.ImportRuns
import JavaSource.Proofs.Sameness
import Mathlib.Algebra.BigOperators.Group.List.Basic

/-!
# The Same Classes Need the Same Imports

Classes that are the same can be traversed in different orders, since their
annotations, their implemented types and the exceptions of their methods are
sets. A pass that is stopped keeps the names it has got to, so the order of the
nodes matters to it in general. It does not matter here: what stops a pass is a
statement, no statement stands below a member of one of these sets, and so a
pass goes through such a set as a whole or never starts on it.

To say this without following two passes at once, a pass is summed up in its
effect: why it is stopped, if it is, and which classes it gets to. Effects form
a monoid, in which a product stops with its first factor that stops, and the
effect of a tree is the product over its nodes in order. The product of factors
that do not stop is a union, which depends on the set of the factors alone
(`Effect.prod_eq_of_stop_eq_none`).

The classes of an effect are kept without superclasses, so the effect of a tree
is that of the bare tree.

## Main definitions

* `Effect`: What a pass comes to.
* `Node.effect`, `Outline.effect`: The effect of meeting a node, and of a pass
  over an outline.

## Theorems

* `Outline.stop_effect`, `Outline.mem_classes_effect`: An effect says how a pass
  ends and which references it gets to.
* `Outline.effect_ofExpr_bare`, `Outline.effect_ofStmt_bare` and their
  companions: Superclasses do not count.
* `Outline.effect_ofMethod_congr`, `Outline.effect_ofClass_congr`: The same
  methods and classes have the same effect.
* `Imports.visit_eq_of_effect_eq`: A pass is determined by its effect.
* `Imports.visit_respects_sameness`: The same classes need the same imports.
-/

namespace JavaSource

/-- What a pass over some nodes comes to. -/
@[ext]
structure Effect where
  /-- Why the pass is stopped, if it is. -/
  stop : Option Misuse
  /-- The classes that the pass gets to, without superclasses. -/
  classes : Set Reference

namespace Effect

-- A second pass counts only if the first one is not stopped.
instance : Monoid Effect where
  one := ⟨none, ∅⟩
  mul x y := ⟨x.stop.or y.stop, {r | r ∈ x.classes ∨ x.stop = none ∧ r ∈ y.classes}⟩
  one_mul x := by
    refine Effect.ext rfl (Set.ext fun r => ?_)
    exact ⟨fun h => h.elim False.elim And.right, fun h => Or.inr ⟨rfl, h⟩⟩
  mul_one x := by
    refine Effect.ext Option.or_none (Set.ext fun r => ?_)
    exact ⟨fun h => h.elim id (fun h => h.2.elim), Or.inl⟩
  mul_assoc x y z := by
    refine Effect.ext Option.or_assoc (Set.ext fun r => ?_)
    change (r ∈ x.classes ∨ x.stop = none ∧ r ∈ y.classes) ∨
        x.stop.or y.stop = none ∧ r ∈ z.classes ↔
      r ∈ x.classes ∨ x.stop = none ∧ (r ∈ y.classes ∨ y.stop = none ∧ r ∈ z.classes)
    rw [Option.or_eq_none_iff, and_or_left, and_assoc, or_assoc]

variable {x y : Effect} {r : Reference}

theorem not_mem_classes_one : r ∉ (1 : Effect).classes :=
  id

theorem stop_mul : (x * y).stop = x.stop.or y.stop :=
  rfl

theorem mem_classes_mul :
    r ∈ (x * y).classes ↔ r ∈ x.classes ∨ x.stop = none ∧ r ∈ y.classes :=
  Iff.rfl

theorem stop_prod_eq_none {xs : List Effect} (h : ∀ x ∈ xs, x.stop = none) :
    xs.prod.stop = none := by
  induction xs with
  | nil => rfl
  | cons x xs ih =>
      rw [List.forall_mem_cons] at h
      rw [List.prod_cons, stop_mul, h.1, ih h.2]
      rfl

/-- Effects that do not stop add up to a union. -/
theorem mem_classes_prod {xs : List Effect} (h : ∀ x ∈ xs, x.stop = none) :
    r ∈ xs.prod.classes ↔ ∃ x ∈ xs, r ∈ x.classes := by
  induction xs with
  | nil => simp [not_mem_classes_one]
  | cons x xs ih =>
      rw [List.forall_mem_cons] at h
      rw [List.prod_cons, mem_classes_mul, ih h.2]
      simp [h.1]

/-- The order and number of effects that do not stop is of no account. -/
theorem prod_eq_of_stop_eq_none {xs ys : List Effect} (h : ∀ x ∈ xs, x.stop = none)
    (hmembers : members xs = members ys) : xs.prod = ys.prod := by
  have hmem : ∀ x, x ∈ xs ↔ x ∈ ys := fun x => Set.ext_iff.mp hmembers x
  have hys : ∀ y ∈ ys, y.stop = none := fun y hy => h y ((hmem y).mpr hy)
  refine Effect.ext ?_ (Set.ext fun r => ?_)
  · rw [stop_prod_eq_none h, stop_prod_eq_none hys]
  · rw [mem_classes_prod h, mem_classes_prod hys]
    simp only [hmem]

end Effect

/-- The effect of meeting a node. -/
def Node.effect : Node → Effect
  | .reference r => ⟨none, {r.bare}⟩
  | n => ⟨n.misuse, ∅⟩

theorem Node.stop_effect (n : Node) : n.effect.stop = n.misuse := by
  cases n <;> rfl

theorem Node.mem_classes_effect {n : Node} {b : Reference} :
    b ∈ n.effect.classes ↔ ∃ r, n = .reference r ∧ r.bare = b := by
  cases n with
  | reference r =>
      simp only [reference.injEq, exists_eq_left']
      exact eq_comm
  | _ => exact ⟨False.elim, fun ⟨_, h, _⟩ => nomatch h⟩

/-! ### The effect of a pass -/

section Passes

open Imports (passed)

theorem stop_prod_effect (ns : List Node) :
    (ns.map Node.effect).prod.stop = ns.findSome? Node.misuse := by
  induction ns with
  | nil => rfl
  | cons n ns ih =>
      rw [List.map_cons, List.prod_cons, Effect.stop_mul, ih, n.stop_effect, List.findSome?_cons]
      cases n.misuse <;> rfl

theorem mem_classes_prod_effect {ns : List Node} {b : Reference} :
    b ∈ (ns.map Node.effect).prod.classes ↔ ∃ r, .reference r ∈ passed ns ∧ r.bare = b := by
  induction ns with
  | nil => simp [Effect.not_mem_classes_one, passed]
  | cons n ns ih =>
      rw [List.map_cons, List.prod_cons, Effect.mem_classes_mul, ih, n.stop_effect,
        n.mem_classes_effect]
      cases h : n.misuse with
      | some reason =>
          -- The node stops the pass, so it is no reference.
          have hpassed : passed (n :: ns) = [] := List.takeWhile_cons_of_neg (by simp [h])
          have hn : ∀ r, n ≠ .reference r := by
            rintro r rfl
            simp [Node.misuse] at h
          simp [hpassed, hn]
      | none =>
          have hpassed : passed (n :: ns) = n :: passed ns :=
            List.takeWhile_cons_of_pos (by simp [h])
          simp only [hpassed, List.mem_cons, true_and, or_and_right, exists_or, eq_comm]

end Passes

namespace Outline

/-- The effect of a pass over an outline. -/
def effect (o : Outline) : Effect :=
  (o.preorder.map Node.effect).prod

theorem stop_effect (o : Outline) : o.effect.stop = o.preorder.findSome? Node.misuse :=
  stop_prod_effect o.preorder

theorem mem_classes_effect {o : Outline} {b : Reference} :
    b ∈ o.effect.classes ↔ ∃ r, .reference r ∈ Imports.passed o.preorder ∧ r.bare = b :=
  mem_classes_prod_effect

theorem effect_node (label : Node) (children : List Outline) :
    (node label children).effect = label.effect * (children.map effect).prod := by
  have hchildren : ((preorderAll children).map Node.effect).prod = (children.map effect).prod := by
    induction children with
    | nil => rfl
    | cons o os ih =>
        rw [preorderAll, List.map_append, List.prod_append, ih, List.map_cons, List.prod_cons]
        rfl
  rw [effect, preorder, List.map_cons, List.prod_cons, hchildren]

/-! ### Superclasses do not count -/

theorem effects_bare {α : Type} {of : α → Outline} {bare : α → α} {xs : List α}
    (h : ∀ x ∈ xs, (of (bare x)).effect = (of x).effect) :
    ((xs.map bare).map of).map effect = (xs.map of).map effect := by
  rw [List.map_map, List.map_map, List.map_map]
  exact List.map_congr_left h

theorem effect_ofReference_bare (r : Reference) :
    (ofReference r.bare).effect = (ofReference r).effect := by
  induction r using Reference.inductionOn with
  | step r ih =>
      -- The effect of meeting the reference keeps it bare in either case.
      have hlabel : (Node.reference r.bare).effect = (Node.reference r).effect := by
        rw [Node.effect, Node.effect, r.bare_bare]
      rcases r with ⟨package, enclosing, name, generics, declaredSuper⟩
      simp only [Reference.bare, Reference.bareAll_eq_map] at hlabel
      simp only [Reference.bare, Reference.bareAll_eq_map, ofReference, effect_node, hlabel,
        ofReferences_eq_map, effects_bare ih]

theorem effect_ofType_bare (t : JavaType) : (ofType t.bare).effect = (ofType t).effect := by
  cases t with
  | reference r isArray =>
      simp only [JavaType.bare, ofType, effect_node, JavaType.reference?, Option.toList_some,
        List.map_cons, effect_ofReference_bare, Node.effect, Node.misuse]
  | _ => rfl

theorem effect_ofAnnotationExpr_bare (a : AnnotationExpr) :
    (ofAnnotationExpr a.bare).effect = (ofAnnotationExpr a).effect := by
  simp only [AnnotationExpr.bare, ofAnnotationExpr, effect_node, List.map_cons,
    effect_ofType_bare, Node.effect, Node.misuse]

theorem effect_ofVariableExpr_bare (v : VariableExpr) :
    (ofVariableExpr v.bare).effect = (ofVariableExpr v).effect := by
  simp only [VariableExpr.bare, Variable.bare, ofVariableExpr, effect_node, List.map_cons,
    effect_ofType_bare, Node.effect, Node.misuse]

theorem effect_ofExpr_bare (e : Expr) : (ofExpr e.bare).effect = (ofExpr e).effect := by
  induction e using Expr.inductionOn with
  | literal type text =>
      simp only [Expr.bare, ofExpr, effect_node, List.map_cons, effect_ofType_bare, Node.effect,
        Node.misuse]
  | string text => rfl
  | var v => exact effect_ofVariableExpr_bare v
  | assignment target value ih =>
      simp only [Expr.bare, ofExpr, effect_node, List.map_cons, effect_ofVariableExpr_bare, ih,
        Node.effect, Node.misuse]
  | call receiver qualifier method returnType arguments generics ihreceiver iharguments =>
      have hreceiver : ∀ e ∈ receiver.toList, (ofExpr e.bare).effect = (ofExpr e).effect :=
        fun e he => ihreceiver e (Option.mem_toList.mp he)
      have hgenerics := effects_bare (fun r (_ : r ∈ generics) => effect_ofReference_bare r)
      simp only [Expr.bare, Expr.bareOption_eq_map, Expr.bareAll_eq_map, ofExpr,
        ofExprOption_eq_map, ofExprs_eq_map, ofReferences_eq_map, Option.toList_map, effect_node,
        List.map_cons, List.map_append, effect_ofType_bare, effects_bare hreceiver, hgenerics,
        effects_bare iharguments, Node.effect, Node.misuse]

theorem effect_ofAssignment_bare (a : Assignment) :
    (ofAssignment a.bare).effect = (ofAssignment a).effect :=
  effect_ofExpr_bare a.toExpr

theorem effect_ofStmt_bare (s : Stmt) : (ofStmt s.bare).effect = (ofStmt s).effect := by
  induction s using Stmt.inductionOn with
  | expr e =>
      simp only [Stmt.bare, ofStmt, effect_node, List.map_cons, effect_ofExpr_bare, Node.effect,
        Node.misuse, Imports.misuse]
  | ifElse condition body elseIfs elseBody ihbody ihelseIfs ihelseBody =>
      have hbranches : (ofBranches (Stmt.bareBranches elseIfs)).map effect =
          (ofBranches elseIfs).map effect := by
        simp only [Stmt.bareBranches_eq_map, ofBranches_eq_flatMap, List.map_flatMap,
          List.flatMap_map]
        refine List.flatMap_congr (fun b hb => ?_)
        rw [List.map_cons, List.map_cons, effect_ofExpr_bare, effects_bare (ihelseIfs b hb)]
      simp only [Stmt.bare, Stmt.bareAll_eq_map, ofStmt, ofStmts_eq_map, effect_node,
        List.map_cons, List.map_append, effect_ofExpr_bare, effects_bare ihbody, hbranches,
        effects_bare ihelseBody, Node.effect, Node.misuse, Imports.misuse]
  | forEach v collection body ihbody =>
      simp only [Stmt.bare, Stmt.bareAll_eq_map, ofStmt, ofStmts_eq_map, effect_node,
        List.map_cons, effect_ofVariableExpr_bare, effect_ofExpr_bare, effects_bare ihbody,
        Node.effect, Node.misuse, Imports.misuse]
  | whileLoop condition body ihbody =>
      simp only [Stmt.bare, Stmt.bareAll_eq_map, ofStmt, ofStmts_eq_map, effect_node,
        List.map_cons, effect_ofExpr_bare, effects_bare ihbody, Node.effect, Node.misuse,
        Imports.misuse]
  | tryCatch resource body v catchBody isSample ihbody ihcatchBody =>
      have hresource := effects_bare
        (fun a (_ : a ∈ resource.toList) => effect_ofAssignment_bare a)
      have hv := effects_bare (fun v' (_ : v' ∈ v.toList) => effect_ofVariableExpr_bare v')
      -- What stops a pass is whether there is a variable, not what it is.
      simp only [Stmt.bare, Stmt.bareAll_eq_map, ofStmt, ofStmts_eq_map, Option.toList_map,
        effect_node, List.map_append, hresource, hv, effects_bare ihbody,
        effects_bare ihcatchBody, Node.effect, Node.misuse, Imports.misuse, Option.isNone_map]

/-! ### Sets do not stop a pass -/

theorem stop_node {label : Node} {children : List Outline} (hlabel : label.misuse = none)
    (h : ∀ o ∈ children, o.effect.stop = none) : (node label children).effect.stop = none := by
  have hchildren : (children.map effect).prod.stop = none :=
    Effect.stop_prod_eq_none (List.forall_mem_map.mpr h)
  rw [effect_node, Effect.stop_mul, hchildren, label.stop_effect, hlabel]
  rfl

theorem stop_ofReference (r : Reference) : (ofReference r).effect.stop = none := by
  induction r using Reference.inductionOn with
  | step r ih =>
      rcases r with ⟨package, enclosing, name, generics, declaredSuper⟩
      rw [ofReference, ofReferences_eq_map]
      exact stop_node rfl (List.forall_mem_map.mpr ih)

theorem stop_ofType (t : JavaType) : (ofType t).effect.stop = none :=
  stop_node rfl (List.forall_mem_map.mpr (fun r _ => stop_ofReference r))

theorem stop_ofAnnotationExpr (a : AnnotationExpr) : (ofAnnotationExpr a).effect.stop = none :=
  stop_node rfl (List.forall_mem_singleton.mpr (stop_ofType a.type))

/-! ### The same trees -/

section Congruence

variable {α β : Type} {of : α → Outline} {bare : α → α} {xs ys : List α}

/-- Lists that are the same place by place have the same effects. -/
theorem effects_congr {f : α → β}
    (h : ∀ x ∈ xs, ∀ y, f x = f y → (of x).effect = (of y).effect) (hmap : xs.map f = ys.map f) :
    (xs.map of).map effect = (ys.map of).map effect := by
  -- Only the members of the first list are assumed of, so that an induction on
  -- classes can supply the hypothesis.
  induction xs generalizing ys with
  | nil =>
      rw [List.map_nil, eq_comm, List.map_eq_nil_iff] at hmap
      rw [hmap]
  | cons x xs ih =>
      rcases ys with _ | ⟨y, ys⟩
      · exact nomatch hmap
      · rw [List.map_cons, List.map_cons, List.cons.injEq] at hmap
        rw [List.forall_mem_cons] at h
        simp only [List.map_cons, h.1 y hmap.1, ih h.2 hmap.2]

theorem effects_congr_bare (h : ∀ x, (of (bare x)).effect = (of x).effect)
    (hmap : xs.map bare = ys.map bare) : (xs.map of).map effect = (ys.map of).map effect := by
  rw [← effects_bare (fun x _ => h x), hmap, effects_bare (fun y _ => h y)]

/-- Lists that are the same as sets have one effect in any order, unless a member
    stops the pass. -/
theorem prod_effects_congr (h : ∀ x, (of (bare x)).effect = (of x).effect)
    (hstop : ∀ x, (of x).effect.stop = none)
    (hmembers : members (xs.map bare) = members (ys.map bare)) :
    ((xs.map of).map effect).prod = ((ys.map of).map effect).prod := by
  have hbare : ∀ zs : List α,
      ((zs.map of).map effect).prod = (((zs.map bare).map of).map effect).prod := by
    intro zs
    rw [effects_bare (fun z _ => h z)]
  rw [hbare xs, hbare ys]
  refine Effect.prod_eq_of_stop_eq_none ?_ (members_map_congr (members_map_congr hmembers))
  simp only [List.forall_mem_map]
  exact fun x _ => hstop (bare x)

end Congruence

theorem effect_ofMethod_congr {m m' : Method} (h : m.view = m'.view) :
    (ofMethod m).effect = (ofMethod m').effect := by
  rw [Method.view, Method.view, Method.View.mk.injEq] at h
  rcases h with ⟨_, hreturnType, _, hannotations, hthrows, harguments, _, _, _, hbody,
    hreturnExpr, _⟩
  have htype : (ofType m.returnType).effect = (ofType m'.returnType).effect := by
    rw [← effect_ofType_bare, hreturnType, effect_ofType_bare]
  have hvalue : m.returnExpr.toList.map Expr.bare = m'.returnExpr.toList.map Expr.bare := by
    rw [← Option.toList_map, ← Option.toList_map, hreturnExpr]
  simp only [ofMethod, ofScope, ofIdentifier, ofStmts_eq_map, ofExprOption_eq_map, effect_node,
    List.map_cons, List.map_append, List.prod_cons, List.prod_append, htype,
    prod_effects_congr effect_ofAnnotationExpr_bare stop_ofAnnotationExpr hannotations,
    prod_effects_congr effect_ofType_bare stop_ofType hthrows,
    effects_congr_bare effect_ofVariableExpr_bare harguments,
    effects_congr_bare effect_ofStmt_bare hbody, effects_congr_bare effect_ofExpr_bare hvalue,
    Node.effect, Node.misuse]

theorem effect_ofClass_congr {c c' : ClassDecl} (h : c.view = c'.view) :
    (ofClass c).effect = (ofClass c').effect := by
  induction c using ClassDecl.inductionOn generalizing c' with
  | step c ih =>
      rcases c with ⟨scope, identifier, package, isNested, annotations, implementsTypes,
        extendsType, isStatic, isFinal, isAbstract, statements, methods, classes⟩
      rcases c' with ⟨scope', identifier', package', isNested', annotations', implementsTypes',
        extendsType', isStatic', isFinal', isAbstract', statements', methods', classes'⟩
      rw [ClassDecl.view, ClassDecl.view, ClassDecl.viewAll_eq_map, ClassDecl.viewAll_eq_map,
        ClassDecl.View.mk.injEq] at h
      rcases h with ⟨_, _, _, _, hannotations, himplements, hextends, _, _, _, hstatements,
        hmethods, hclasses⟩
      have hsuper :
          extendsType.toList.map JavaType.bare = extendsType'.toList.map JavaType.bare := by
        rw [← Option.toList_map, ← Option.toList_map, hextends]
      -- Annotations and implemented types count as sets. All else comes in the same
      -- order, and the nested classes, place by place, have the same effect by induction.
      simp only [ofClass, ofScope, ofIdentifier, ofStmts_eq_map, ofClasses_eq_map, effect_node,
        List.map_cons, List.map_append, List.prod_cons, List.prod_append,
        prod_effects_congr effect_ofAnnotationExpr_bare stop_ofAnnotationExpr hannotations,
        prod_effects_congr effect_ofType_bare stop_ofType himplements,
        effects_congr_bare effect_ofType_bare hsuper,
        effects_congr_bare effect_ofStmt_bare hstatements,
        effects_congr (fun _ _ _ => effect_ofMethod_congr) hmethods,
        effects_congr (fun d hd _ => ih d hd) hclasses, Node.effect, Node.misuse]

end Outline

namespace Imports

variable {i : Imports} {o p : Outline}

theorem external_bare {r : Reference} : i.External r.bare ↔ i.External r := by
  rw [← needs_iff, ← needs_iff, needs, needs, r.package_bare]

/-- A pass is determined by its effect: how it ends, and the names it leaves. -/
theorem visit_eq_of_effect_eq (h : o.effect = p.effect) :
    (i.visit o).value.1 = (i.visit p).value.1 ∧
      ∀ nested a, a ∈ (i.visit o).value.2.names nested ↔ a ∈ (i.visit p).value.2.names nested := by
  have hstop : o.preorder.findSome? Node.misuse = p.preorder.findSome? Node.misuse := by
    rw [← o.stop_effect, ← p.stop_effect, h]
  rw [value_visit, value_visit, hstop]
  refine ⟨rfl, fun nested a => ?_⟩
  -- A name is collected on account of a reference, and seen from it without superclass.
  have hnames : ∀ q : Outline, a ∈ (i.meetAll (passed q.preorder)).names nested ↔
      a ∈ i.names nested ∨
        ∃ b ∈ q.effect.classes, i.External b ∧ b.isNested = nested ∧ a = b.fullName := by
    intro q
    rw [mem_names_meetAll]
    simp only [Outline.mem_classes_effect, exists_exists_and_eq_and, external_bare,
      Reference.isNested_bare, Reference.fullName_bare]
  rw [hnames o, hnames p, h]

/-- Classes are the same exactly if nothing that counts tells them apart, which
    is an equivalence. Collecting the names of the same classes from the same
    names ends in the same way, with the same error if there is one, and leaves
    the same names of both kinds. If the names were ascending, as they always are
    after a run, they are left in the same order as well. -/
theorem visit_respects_sameness :
    (∀ c d : ClassDecl, (c == d) = true ↔ c.view = d.view) ∧
    Equivalence (fun c d : ClassDecl => (c == d) = true) ∧
    ∀ c d : ClassDecl, (c == d) = true → ∀ i : Imports,
      (i.visit (.ofClass c)).value.1 = (i.visit (.ofClass d)).value.1 ∧
      (∀ a, a ∈ (i.visit (.ofClass c)).value.2.statics ↔
        a ∈ (i.visit (.ofClass d)).value.2.statics) ∧
      (∀ a, a ∈ (i.visit (.ofClass c)).value.2.plains ↔
        a ∈ (i.visit (.ofClass d)).value.2.plains) ∧
      (i.statics.Pairwise (· < ·) → i.plains.Pairwise (· < ·) →
        (i.visit (.ofClass c)).value.2 = (i.visit (.ofClass d)).value.2) := by
  refine ⟨ClassDecl.beq_iff, ClassDecl.beq_equivalence, fun c d h i => ?_⟩
  have heffect := Outline.effect_ofClass_congr ((c.beq_iff d).mp h)
  rcases visit_eq_of_effect_eq (i := i) heffect with ⟨hending, hnames⟩
  refine ⟨hending, hnames true, hnames false, fun hstatics hplains => ?_⟩
  have hascending : ∀ (o : Outline) (nested : Bool),
      ((i.visit o).value.2.names nested).Pairwise (· < ·) := by
    intro o nested
    rw [value_visit]
    refine pairwise_names_meetAll ?_
    cases nested with
    | true => exact hstatics
    | false => exact hplains
  refine eq_of_mem_names ?_ ?_ (hascending _) (hascending _) hnames
  · rw [value_visit, value_visit, package_meetAll, package_meetAll]
  · rw [value_visit, value_visit, implicitPackages_meetAll, implicitPackages_meetAll]

/-- Two classes with sample code at depth, built from annotations and implemented
    types in different orders, one of them twice, and with different knowledge
    about a superclass below a generic argument. -/
theorem visit_respects_shuffled_shelf :
    let books := fun declaredSuper : Option Reference => TypeDraft.ofReference
      ⟨"java.util", [], "List", [⟨"org.book", [], "Book", [], declaredSuper⟩], none⟩ false
    let closeable : TypeDraft := .ofReference (.topLevel "java.io" "Closeable") false
    let start := empty "org.shelf" ["java.lang"]
    let first := { ClassDraft.shelf true with
      annotations := [.deprecatedMarker, .suppressWarnings "all"]
      implementsTypes := [books none, closeable] }
    let second := { ClassDraft.shelf true with
      annotations := [.suppressWarnings "all", .deprecatedMarker, .deprecatedMarker]
      implementsTypes := [closeable, books (some (.topLevel "org.book" "Work"))] }
    ∃ c d, first.build.outcome = .ok c ∧ second.build.outcome = .ok d ∧ (c == d) = true ∧
      (start.visit (.ofClass c)).value.1 = (start.visit (.ofClass d)).value.1 ∧
      (start.visit (.ofClass c)).value.2 = (start.visit (.ofClass d)).value.2 := by
  intro books closeable start first second
  have hsame : ∃ c d, first.build.outcome = .ok c ∧ second.build.outcome = .ok d ∧
      (c == d) = true := ⟨_, _, rfl, rfl, rfl⟩
  rcases hsame with ⟨c, d, hc, hd, h⟩
  have hvisit := visit_respects_sameness.2.2 c d h start
  exact ⟨c, d, hc, hd, h, hvisit.1, hvisit.2.2.2 List.Pairwise.nil List.Pairwise.nil⟩

end Imports

end JavaSource
