import JavaSource.Traversal
import JavaSource.Proofs.Induction
import Mathlib.Data.List.Basic

/-!
# Nodes in Order

An outline lists its nodes in pre-order, each before the nodes below it. A
traversal is one pass over the nodes it enters (`traverse_eq_forM_entered`), and
one that never declines to go on enters them all (`traverse_eq_forM`). What a
traversal does is therefore a matter of lists; what remains is to know which
nodes the list of a tree has.

`mem_preorder_…` answers that one level at a time: the nodes of a tree are the
node itself and the nodes of its parts. There is one such lemma for each
constructor of the tree, so a result about all nodes of a tree is an induction
that never opens an outline.

## Main definitions

* `Outline.preorder`: The nodes of an outline in order.
* `Outline.entered`: The nodes that are left if a traversal does not go on below
  some of them.
* `Node.outline`: The outline of a node of any sort.

## Theorems

* `Outline.traverse_eq_forM_entered`: A traversal is one pass over the nodes it
  enters.
* `Outline.traverse_eq_forM`: A traversal that always goes on is one pass over
  the nodes in order.
* `Outline.mem_preorder_ofReference`, `Outline.mem_preorder_call`,
  `Outline.mem_preorder_tryCatch`, `Outline.mem_preorder_ofClass` and their
  companions: The nodes of a tree, one level at a time.
-/

namespace JavaSource

namespace Outline

mutual

/-- The nodes of an outline, each before the nodes below it. -/
def preorder : Outline → List Node
  | node label children => label :: preorderAll children

/-- The nodes of several outlines, one outline after the other. -/
def preorderAll : List Outline → List Node
  | [] => []
  | o :: rest => preorder o ++ preorderAll rest

end

theorem preorderAll_eq_flatMap (os : List Outline) : preorderAll os = os.flatMap preorder := by
  induction os with
  | nil => rfl
  | cons o os ih => rw [preorderAll, List.flatMap_cons, ih]

mutual

/-- The nodes that a traversal enters which goes on below some nodes only. -/
def entered (below : Node → Bool) : Outline → List Node
  | node label children => label :: if below label then enteredAll below children else []

/-- The nodes of several outlines that such a traversal enters. -/
def enteredAll (below : Node → Bool) : List Outline → List Node
  | [] => []
  | o :: rest => entered below o ++ enteredAll below rest

end

theorem enteredAll_eq_flatMap (below : Node → Bool) (os : List Outline) :
    enteredAll below os = os.flatMap (entered below) := by
  induction os with
  | nil => rfl
  | cons o os ih => rw [enteredAll, List.flatMap_cons, ih]

/-- A traversal whose way on from a node depends on the node alone acts on the
    nodes it enters, in order, and does nothing else. -/
theorem traverse_eq_forM_entered {m : Type → Type} [Monad m] [LawfulMonad m]
    {enter : Node → m Bool} {act : Node → m Unit} {below : Node → Bool}
    (h : ∀ n, enter n = do act n; pure (below n)) (o : Outline) :
    o.traverse enter = (o.entered below).forM act := by
  induction o using Outline.inductionOn with
  | step label children ih =>
      -- The outlines below, any number of them, are traversed one after the other.
      have hchildren : ∀ os : List Outline,
          (∀ o ∈ os, o.traverse enter = (o.entered below).forM act) →
            traverseAll enter os = (enteredAll below os).forM act := by
        intro os
        induction os with
        | nil => exact fun _ => rfl
        | cons o rest ihrest =>
            intro hos
            rw [List.forall_mem_cons] at hos
            rw [traverseAll, enteredAll, hos.1, ihrest hos.2]
            exact List.forM_append.symm
      rw [traverse, entered, h label, bind_assoc]
      simp only [pure_bind]
      cases below label with
      | false => rfl
      | true =>
          rw [if_pos rfl, if_pos rfl, hchildren children ih]
          rfl

/-- If nothing keeps a traversal from going on, it enters all nodes. -/
theorem entered_true (o : Outline) : o.entered (fun _ => true) = o.preorder := by
  induction o using Outline.inductionOn with
  | step label children ih =>
      rw [entered, preorder, if_pos rfl, enteredAll_eq_flatMap, preorderAll_eq_flatMap,
        List.flatMap_congr ih]

/-- A traversal that always goes on below a node acts on the nodes in order,
    and does nothing else. -/
theorem traverse_eq_forM {m : Type → Type} [Monad m] [LawfulMonad m] {enter : Node → m Bool}
    {act : Node → m Unit} (h : ∀ n, enter n = do act n; pure true) (o : Outline) :
    o.traverse enter = o.preorder.forM act := by
  rw [traverse_eq_forM_entered h, entered_true]

section Members

variable {m label : Node} {o : Outline} {os ps : List Outline}

@[simp]
theorem mem_preorder_node : m ∈ (node label os).preorder ↔ m = label ∨ m ∈ preorderAll os := by
  rw [preorder, List.mem_cons]

@[simp]
theorem mem_preorderAll_nil : m ∈ preorderAll [] ↔ False := by
  rw [preorderAll, List.mem_nil_iff]

@[simp]
theorem mem_preorderAll_cons :
    m ∈ preorderAll (o :: os) ↔ m ∈ o.preorder ∨ m ∈ preorderAll os := by
  rw [preorderAll, List.mem_append]

@[simp]
theorem mem_preorderAll_append :
    m ∈ preorderAll (os ++ ps) ↔ m ∈ preorderAll os ∨ m ∈ preorderAll ps := by
  induction os with
  | nil => simp only [List.nil_append, mem_preorderAll_nil, false_or]
  | cons o os ih => simp only [List.cons_append, mem_preorderAll_cons, ih, or_assoc]

@[simp]
theorem mem_preorderAll_map {α : Type} {f : α → Outline} {xs : List α} :
    m ∈ preorderAll (xs.map f) ↔ ∃ x ∈ xs, m ∈ (f x).preorder := by
  induction xs with
  | nil => simp
  | cons x xs ih => simp [ih]

@[simp]
theorem mem_preorderAll_flatMap {α : Type} {f : α → List Outline} {xs : List α} :
    m ∈ preorderAll (xs.flatMap f) ↔ ∃ x ∈ xs, m ∈ preorderAll (f x) := by
  induction xs with
  | nil => simp
  | cons x xs ih => simp [ih]

end Members

/-! ### Outlines of lists -/

theorem ofReferences_eq_map (rs : List Reference) : ofReferences rs = rs.map ofReference :=
  eq_list_map rfl (fun _ _ => rfl) rs

theorem ofExprOption_eq_map (o : Option Expr) : ofExprOption o = o.toList.map ofExpr := by
  cases o with
  | none => rfl
  | some e => rfl

theorem ofExprs_eq_map (es : List Expr) : ofExprs es = es.map ofExpr :=
  eq_list_map rfl (fun _ _ => rfl) es

theorem ofStmts_eq_map (ss : List Stmt) : ofStmts ss = ss.map ofStmt :=
  eq_list_map rfl (fun _ _ => rfl) ss

theorem ofBranches_eq_flatMap (bs : List (Expr × List Stmt)) :
    ofBranches bs = bs.flatMap (fun b => ofExpr b.1 :: b.2.map ofStmt) := by
  induction bs with
  | nil => rfl
  | cons b bs ih => rw [ofBranches, List.flatMap_cons, ih, ofStmts_eq_map]

theorem ofClasses_eq_map (cs : List ClassDecl) : ofClasses cs = cs.map ofClass :=
  eq_list_map rfl (fun _ _ => rfl) cs

/-! ### The nodes of a tree, one level at a time -/

section Levels

variable {m : Node}

-- The equations of the outlines are derived here once, before the lemmas that all need
-- them and would wait for each other.
attribute [local simp] ofReference ofExpr ofStmt ofClass

theorem mem_preorder_ofReference {r : Reference} :
    m ∈ (ofReference r).preorder ↔
      m = .reference r ∨ ∃ g ∈ r.generics, m ∈ (ofReference g).preorder := by
  cases r
  simp only [ofReference, ofReferences_eq_map, mem_preorder_node, mem_preorderAll_map]

theorem mem_preorder_ofType {t : JavaType} :
    m ∈ (ofType t).preorder ↔
      m = .type t ∨ ∃ r, t.reference? = some r ∧ m ∈ (ofReference r).preorder := by
  simp only [ofType, mem_preorder_node, mem_preorderAll_map, Option.mem_toList]

theorem mem_preorder_ofAnnotationExpr {a : AnnotationExpr} :
    m ∈ (ofAnnotationExpr a).preorder ↔ m = .annotationExpr a ∨ m ∈ (ofType a.type).preorder := by
  simp only [ofAnnotationExpr, mem_preorder_node, mem_preorderAll_cons, mem_preorderAll_nil,
    or_false]

theorem mem_preorder_ofVariableExpr {v : VariableExpr} :
    m ∈ (ofVariableExpr v).preorder ↔
      m = .expr (.var v) ∨ m ∈ (ofType v.var.type).preorder ∨
        m = .identifier v.var.identifier ∨ m = .scope v.scope := by
  simp only [ofVariableExpr, ofIdentifier, ofScope, mem_preorder_node, mem_preorderAll_cons,
    mem_preorderAll_nil, or_false]

theorem mem_preorder_literal {t : JavaType} {text : String} :
    m ∈ (ofExpr (.literal t text)).preorder ↔
      m = .expr (.literal t text) ∨ m ∈ (ofType t).preorder := by
  simp only [ofExpr, mem_preorder_node, mem_preorderAll_cons, mem_preorderAll_nil, or_false]

theorem mem_preorder_string {text : String} :
    m ∈ (ofExpr (.string text)).preorder ↔
      m = .expr (.string text) ∨ m ∈ (ofType .string).preorder := by
  simp only [ofExpr, mem_preorder_node, mem_preorderAll_cons, mem_preorderAll_nil, or_false]

theorem mem_preorder_assignment {target : VariableExpr} {value : Expr} :
    m ∈ (ofExpr (.assignment target value)).preorder ↔
      m = .expr (.assignment target value) ∨ m ∈ (ofVariableExpr target).preorder ∨
        m ∈ (ofExpr value).preorder := by
  simp only [ofExpr, mem_preorder_node, mem_preorderAll_cons, mem_preorderAll_nil, or_false]

theorem mem_preorder_call {receiver : Option Expr} {qualifier : Option String}
    {method : Identifier} {returnType : JavaType} {arguments : List Expr}
    {generics : List Reference} :
    m ∈ (ofExpr (.call receiver qualifier method returnType arguments generics)).preorder ↔
      m = .expr (.call receiver qualifier method returnType arguments generics) ∨
        m ∈ (ofType returnType).preorder ∨ (∃ e ∈ receiver, m ∈ (ofExpr e).preorder) ∨
        m = .identifier method ∨ (∃ g ∈ generics, m ∈ (ofReference g).preorder) ∨
        ∃ e ∈ arguments, m ∈ (ofExpr e).preorder := by
  simp only [ofExpr, ofExprOption_eq_map, ofReferences_eq_map, ofExprs_eq_map, ofIdentifier,
    mem_preorder_node, mem_preorderAll_cons, mem_preorderAll_append, mem_preorderAll_map,
    mem_preorderAll_nil, Option.mem_toList, Option.mem_def, or_false, or_assoc, List.cons_append]

theorem mem_preorder_exprStmt {e : Expr} :
    m ∈ (ofStmt (.expr e)).preorder ↔ m = .stmt (.expr e) ∨ m ∈ (ofExpr e).preorder := by
  simp only [ofStmt, mem_preorder_node, mem_preorderAll_cons, mem_preorderAll_nil, or_false]

theorem mem_preorder_ifElse {condition : Expr} {body : List Stmt}
    {elseIfs : List (Expr × List Stmt)} {elseBody : List Stmt} :
    m ∈ (ofStmt (.ifElse condition body elseIfs elseBody)).preorder ↔
      m = .stmt (.ifElse condition body elseIfs elseBody) ∨ m ∈ (ofExpr condition).preorder ∨
        (∃ s ∈ body, m ∈ (ofStmt s).preorder) ∨
        (∃ b ∈ elseIfs, m ∈ (ofExpr b.1).preorder ∨ ∃ s ∈ b.2, m ∈ (ofStmt s).preorder) ∨
        ∃ s ∈ elseBody, m ∈ (ofStmt s).preorder := by
  simp only [ofStmt, ofStmts_eq_map, ofBranches_eq_flatMap, mem_preorder_node,
    mem_preorderAll_cons, mem_preorderAll_append, mem_preorderAll_map, mem_preorderAll_flatMap,
    or_assoc, List.cons_append]

theorem mem_preorder_forEach {v : VariableExpr} {collection : Expr} {body : List Stmt} :
    m ∈ (ofStmt (.forEach v collection body)).preorder ↔
      m = .stmt (.forEach v collection body) ∨ m ∈ (ofVariableExpr v).preorder ∨
        m ∈ (ofExpr collection).preorder ∨ ∃ s ∈ body, m ∈ (ofStmt s).preorder := by
  simp only [ofStmt, ofStmts_eq_map, mem_preorder_node, mem_preorderAll_cons,
    mem_preorderAll_map]

theorem mem_preorder_whileLoop {condition : Expr} {body : List Stmt} :
    m ∈ (ofStmt (.whileLoop condition body)).preorder ↔
      m = .stmt (.whileLoop condition body) ∨ m ∈ (ofExpr condition).preorder ∨
        ∃ s ∈ body, m ∈ (ofStmt s).preorder := by
  simp only [ofStmt, ofStmts_eq_map, mem_preorder_node, mem_preorderAll_cons,
    mem_preorderAll_map]

theorem mem_preorder_tryCatch {resource : Option Assignment} {body : List Stmt}
    {v : Option VariableExpr} {catchBody : List Stmt} {isSample : Bool} :
    m ∈ (ofStmt (.tryCatch resource body v catchBody isSample)).preorder ↔
      m = .stmt (.tryCatch resource body v catchBody isSample) ∨
        (∃ a ∈ resource, m ∈ (ofExpr a.toExpr).preorder) ∨
        (∃ s ∈ body, m ∈ (ofStmt s).preorder) ∨
        (∃ v' ∈ v, m ∈ (ofVariableExpr v').preorder) ∨
        ∃ s ∈ catchBody, m ∈ (ofStmt s).preorder := by
  simp only [ofStmt, ofStmts_eq_map, ofAssignment, mem_preorder_node, mem_preorderAll_append,
    mem_preorderAll_map, Option.mem_toList, Option.mem_def, or_assoc]

theorem mem_preorder_ofMethod {method : Method} :
    m ∈ (ofMethod method).preorder ↔
      m = .method method ∨ m = .scope method.scope ∨ m ∈ (ofType method.returnType).preorder ∨
        m = .identifier method.identifier ∨
        (∃ a ∈ method.annotations, m ∈ (ofAnnotationExpr a).preorder) ∨
        (∃ t ∈ method.throwsTypes, m ∈ (ofType t).preorder) ∨
        (∃ v ∈ method.arguments, m ∈ (ofVariableExpr v).preorder) ∨
        (∃ s ∈ method.body, m ∈ (ofStmt s).preorder) ∨
        ∃ e ∈ method.returnExpr, m ∈ (ofExpr e).preorder := by
  simp only [ofMethod, ofScope, ofIdentifier, ofStmts_eq_map, ofExprOption_eq_map,
    mem_preorder_node, mem_preorderAll_cons, mem_preorderAll_append, mem_preorderAll_map,
    mem_preorderAll_nil, Option.mem_toList, Option.mem_def, or_false, or_assoc, List.cons_append]

theorem mem_preorder_ofClass {c : ClassDecl} :
    m ∈ (ofClass c).preorder ↔
      m = .classDecl c ∨ m = .scope c.scope ∨ m = .identifier c.identifier ∨
        (∃ a ∈ c.annotations, m ∈ (ofAnnotationExpr a).preorder) ∨
        (∃ t ∈ c.implementsTypes, m ∈ (ofType t).preorder) ∨
        (∃ t ∈ c.extendsType, m ∈ (ofType t).preorder) ∨
        (∃ s ∈ c.statements, m ∈ (ofStmt s).preorder) ∨
        (∃ method ∈ c.methods, m ∈ (ofMethod method).preorder) ∨
        ∃ d ∈ c.classes, m ∈ (ofClass d).preorder := by
  cases c
  simp only [ofClass, ofScope, ofIdentifier, ofStmts_eq_map, ofClasses_eq_map,
    mem_preorder_node, mem_preorderAll_cons, mem_preorderAll_append, mem_preorderAll_map,
    mem_preorderAll_nil, Option.mem_toList, Option.mem_def, or_false, or_assoc, List.cons_append]

end Levels

end Outline

open Outline

/-- The outline of a node of any sort. -/
def Node.outline : Node → Outline
  | identifier i => ofIdentifier i
  | scope s => ofScope s
  | reference r => ofReference r
  | type t => ofType t
  | annotationExpr a => ofAnnotationExpr a
  | expr e => ofExpr e
  | stmt s => ofStmt s
  | method m => ofMethod m
  | classDecl c => ofClass c

end JavaSource
