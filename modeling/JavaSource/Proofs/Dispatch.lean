import JavaSource.Proofs.Recording
import JavaSource.CompilationUnit

/-!
# Dispatch

A visitor calls itself through the tree: a node accepts it by calling one of its
methods, the method may run the walk over the node, and the walk accepts the visitor
at the parts. There are sixteen methods, and every kind of node has a walk over parts of
its own. This module shows that they all amount to one recursion on outlines.

What the walks have in common is that each accepts the visitor at the children of its
node, in their order, and does nothing else (`Visitor.walk_eq_forM_children`). Nothing
is asked of the methods for that. A visitor is therefore the same as a function that
does at every node of the outline what the method for its kind does, given what is done
below (`Visitor.accept_eq_visit`), whichever methods it overrides and whether they run
the walk never, once or more often.

A traversal is the case of methods that act and then decide whether to go on. The
visitors of this library are of this sort, and for them accepting a visitor is a
traversal of the outline. So what is known about traversals is known about them.

## Main definitions

* `Outline.visit`: Doing something at every node, given what is done below it.
* `Visitor.guarded`: What a method does that acts and then decides.

## Theorems

* `Visitor.walk_eq_forM_children`: A walk accepts the visitor at the children.
* `Visitor.accept_eq_visit`: Accepting a visitor is one recursion on the outline.
* `Visitor.accept_eq_traverse`: For methods that act and decide it is a traversal.
* `Recorder.accept_visitor`: The methods of a recorder make its traversal.
* `Imports.visit_eq_accept`: The names of a tree, by the methods of the collection.
* `CompilationUnit.imports_eq_visit`: The imports of a file, by a traversal of its class.
-/

namespace JavaSource

open Outline

variable {m : Type → Type} [Monad m]

theorem forM_congr {α : Type} {f g : α → m Unit} {xs : List α} (h : ∀ x ∈ xs, f x = g x) :
    forM xs f = forM xs g := by
  induction xs with
  | nil => rfl
  | cons x xs ih =>
      rw [List.forall_mem_cons] at h
      rw [List.forM_cons, List.forM_cons, h.1, ih h.2]

/-- A function that acts on the members of a list, one after the other, is a loop. The
    walks have such a companion for each list that a tree holds. -/
theorem eq_list_forM {α : Type} {f : α → m Unit} {all : List α → m Unit}
    (nil : all [] = pure ()) (cons : ∀ x xs, all (x :: xs) = do f x; all xs) (xs : List α) :
    all xs = forM xs f := by
  induction xs with
  | nil => exact nil
  | cons x xs ih => rw [cons, ih, List.forM_cons]

namespace Outline

mutual

/-- Do something at the root of an outline, given what is done below it. -/
def visit (visitor : Node → m Unit → m Unit) : Outline → m Unit
  | node label children => visitor label (visitAll visitor children)

/-- Do the same at several outlines, one after the other. -/
def visitAll (visitor : Node → m Unit → m Unit) : List Outline → m Unit
  | [] => pure ()
  | o :: rest => do
    visit visitor o
    visitAll visitor rest

end

theorem visitAll_eq_forM (visitor : Node → m Unit → m Unit) (os : List Outline) :
    visitAll visitor os = forM os (visit visitor) :=
  eq_list_forM rfl (fun _ _ => rfl) os

theorem traverseAll_eq_forM (enter : Node → m Bool) (os : List Outline) :
    traverseAll enter os = forM os (Outline.traverse enter) :=
  eq_list_forM rfl (fun _ _ => rfl) os

end Outline

namespace Visitor

/-! ### Walks -/

section Walks

variable (v : Visitor m)

section Accept

@[simp]
theorem accept_identifier (i : Identifier) : v.accept (.identifier i) = v.acceptIdentifier i :=
  rfl

@[simp]
theorem accept_scope (s : Scope) : v.accept (.scope s) = v.acceptScope s :=
  rfl

@[simp]
theorem accept_reference (r : Reference) : v.accept (.reference r) = v.acceptReference r :=
  rfl

@[simp]
theorem accept_type (t : JavaType) : v.accept (.type t) = v.acceptType t :=
  rfl

@[simp]
theorem accept_annotationExpr (a : AnnotationExpr) :
    v.accept (.annotationExpr a) = v.acceptAnnotationExpr a :=
  rfl

@[simp]
theorem accept_expr (e : Expr) : v.accept (.expr e) = v.acceptExpr e :=
  rfl

@[simp]
theorem acceptExpr_var (x : VariableExpr) : v.acceptExpr (.var x) = v.acceptVariableExpr x :=
  rfl

@[simp]
theorem acceptExpr_toExpr (a : Assignment) : v.acceptExpr a.toExpr = v.acceptAssignment a :=
  rfl

@[simp]
theorem dispatchExpr_walkExpr (e : Expr) : v.dispatchExpr e (v.walkExpr e) = v.acceptExpr e :=
  rfl

@[simp]
theorem accept_stmt (s : Stmt) : v.accept (.stmt s) = v.acceptStmt s :=
  rfl

@[simp]
theorem accept_method (f : Method) : v.accept (.method f) = v.acceptMethod f :=
  rfl

@[simp]
theorem accept_classDecl (c : ClassDecl) : v.accept (.classDecl c) = v.acceptClass c :=
  rfl

end Accept

theorem walkReferences_eq_forM (rs : List Reference) :
    v.walkReferences rs = forM rs v.acceptReference :=
  eq_list_forM rfl (fun _ _ => rfl) rs

theorem walkExprs_eq_forM (es : List Expr) : v.walkExprs es = forM es v.acceptExpr :=
  eq_list_forM rfl (fun _ _ => rfl) es

theorem walkStmts_eq_forM (ss : List Stmt) : v.walkStmts ss = forM ss v.acceptStmt :=
  eq_list_forM rfl (fun _ _ => rfl) ss

theorem walkClasses_eq_forM (cs : List ClassDecl) : v.walkClasses cs = forM cs v.acceptClass :=
  eq_list_forM rfl (fun _ _ => rfl) cs

variable [LawfulMonad m]

theorem walkExprOption_eq_forM (o : Option Expr) :
    v.walkExprOption o = forM o.toList v.acceptExpr := by
  cases o with
  | none => rfl
  | some e => simp [walkExprOption]

/-- Each condition is accepted before its body, as they stand among the children. -/
theorem walkBranches_eq_forM (bs : List (Expr × List Stmt)) :
    v.walkBranches bs =
      forM (bs.flatMap (fun b => [Node.expr b.1] ++ b.2.map Node.stmt)) v.accept := by
  induction bs with
  | nil => rfl
  | cons b bs ih =>
      rw [List.flatMap_cons, walkBranches, ih, walkStmts_eq_forM]
      simp [List.forM_append, List.forM_map]

/-- A walk accepts the visitor at the children of its node, in their order, and does
    nothing else. -/
theorem walk_eq_forM_children (n : Node) : v.walk n = forM n.children v.accept := by
  cases n with
  | identifier i => rfl
  | scope s => rfl
  | reference r =>
      cases r
      simp [walk, walkReference, walkReferences_eq_forM, Node.children]
  | type t => cases t <;> simp [walk, walkType, Node.children, JavaType.reference?]
  | annotationExpr a => simp [walk, walkAnnotationExpr, Node.children]
  | expr e =>
      cases e <;>
        simp [walk, walkExpr, walkVariableExpr, walkExprOption_eq_forM, walkReferences_eq_forM,
          walkExprs_eq_forM, Node.children]
  | stmt s =>
      cases s <;>
        simp [walk, walkStmt, walkStmts_eq_forM, walkBranches_eq_forM, Node.children]
  | method f =>
      simp [walk, walkMethod, walkStmts_eq_forM, walkExprOption_eq_forM, Node.children]
  | classDecl c =>
      cases c
      simp [walk, walkClass, walkStmts_eq_forM, walkClasses_eq_forM, Node.children]

end Walks

/-- Accepting a visitor, whatever its methods do, is one recursion on the outline. -/
theorem accept_eq_visit [LawfulMonad m] (v : Visitor m) (n : Node) :
    v.accept n = n.outline.visit v.dispatch := by
  -- By induction on the outline, for whichever node it is the outline of.
  generalize houtline : n.outline = o
  induction o using Outline.inductionOn generalizing n with
  | step label children ih =>
      rw [n.outline_eq, Outline.node.injEq] at houtline
      rcases houtline with ⟨rfl, rfl⟩
      have hbelow : ∀ c ∈ n.children, v.accept c = c.outline.visit v.dispatch := by
        intro c hc
        exact ih c.outline (List.mem_map_of_mem hc) c rfl
      rw [visit, visitAll_eq_forM, List.forM_map, accept, walk_eq_forM_children,
        forM_congr hbelow]

/-! ### Traversals -/

/-- What a method does that acts first and then decides whether to run the walk. -/
def guarded (enter : Node → m Bool) (n : Node) (walk : m Unit) : m Unit := do
  let below ← enter n
  if below then walk else pure ()

theorem visit_guarded (enter : Node → m Bool) (o : Outline) :
    o.visit (guarded enter) = o.traverse enter := by
  induction o using Outline.inductionOn with
  | step label children ih =>
      rw [Outline.visit, Outline.traverse, visitAll_eq_forM, traverseAll_eq_forM, forM_congr ih,
        guarded]

/-- If the methods of a visitor act and then decide, accepting it is a traversal. -/
theorem accept_eq_traverse [LawfulMonad m] {v : Visitor m} {enter : Node → m Bool}
    (h : ∀ n walk, v.dispatch n walk = guarded enter n walk) (n : Node) :
    v.accept n = n.outline.traverse enter := by
  have hdispatch : v.dispatch = guarded enter := funext (fun n => funext (h n))
  rw [accept_eq_visit, hdispatch, visit_guarded]

omit [Monad m] in
theorem dispatch_uniform (visitor : Node → m Unit → m Unit) (n : Node) :
    (uniform visitor).dispatch n = visitor n := by
  cases n with
  | expr e => cases e <;> rfl
  | stmt s => cases s <;> rfl
  | _ => rfl

end Visitor

namespace Recorder

theorem visit_eq_guarded (r : Recorder) (n : Node)
    (walk : ExceptT Unit (StateM (Array Node)) Unit) :
    r.visit n walk = Visitor.guarded r.enter n walk := by
  unfold visit Visitor.guarded enter
  cases r.handles n with
  | false => simp
  | true =>
      simp only [if_true, bind_assoc]
      refine bind_congr (fun seen => ?_)
      split
      · rfl
      · cases r.prunes n <;> simp

/-- The methods of a recorder make the traversal from which its record comes. -/
theorem accept_visitor (r : Recorder) (n : Node) :
    r.visitor.accept n = n.outline.traverse r.enter := by
  refine Visitor.accept_eq_traverse (fun n walk => ?_) n
  rw [visitor, Visitor.dispatch_uniform, visit_eq_guarded]

end Recorder

namespace Imports

theorem dispatch_visitor (n : Node) (walk : Collect Unit) :
    visitor.dispatch n walk = Visitor.guarded enter n walk := by
  have hpass : ∀ n', enter n' = pure true → Visitor.guarded enter n' walk = walk := by
    intro n' h
    simp [Visitor.guarded, h]
  cases n with
  | reference r => simp [Visitor.dispatch, visitor, Visitor.guarded, enter]
  | expr e =>
      rw [hpass _ rfl]
      cases e <;> rfl
  | stmt s =>
      cases s with
      | tryCatch resource body catchVariable catchBody isSample =>
          simp only [Visitor.dispatch, Visitor.dispatchStmt, visitor, Visitor.guarded, enter]
          cases misuse (.tryCatch resource body catchVariable catchBody isSample) with
          | none => simp
          | some reason => rfl
      | _ =>
          rw [hpass _ rfl]
          rfl
  | _ =>
      rw [hpass _ rfl]
      rfl

/-- The names of a tree are collected by the two methods that the collection overrides. -/
theorem visit_eq_accept (i : Imports) (n : Node) :
    i.visit n.outline = (visitor.accept n).run.run i := by
  rw [visit, Visitor.accept_eq_traverse dispatch_visitor]

end Imports

/-- The imports of a file are those that a traversal of its class collects. -/
theorem CompilationUnit.imports_eq_visit (u : CompilationUnit) (packages : List String) :
    u.imports packages = (Imports.empty u.package packages).visit (Outline.ofClass u.classDecl) :=
  ((Imports.empty u.package packages).visit_eq_accept (.classDecl u.classDecl)).symm

end JavaSource
