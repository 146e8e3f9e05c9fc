import JavaSource.Proofs.Preorder
import JavaSource.Proofs.WellFormed

/-!
# Rules at Every Depth

A well-formed tree has only well-formed nodes. The predicates of
`Proofs.WellFormed` are hereditary by definition, but they descend through
records, lists and optional parts of many sorts; this module says the same of
the one list of all nodes, which is the form in which a pass over a tree can
use it: whatever node the pass meets, the rules hold there.

The proofs are inductions on well-formedness, not on the tree, since it is the
clause for a node that hands over the rules for its parts.

## Theorems

* `Expr.WellFormed.of_mem_preorder`, `Stmt.WellFormed.of_mem_preorder`,
  `Method.WellFormed.of_mem_preorder`, `ClassDecl.WellFormed.of_mem_preorder`,
  `Node.WellFormed.of_mem_preorder`: All nodes of a well-formed tree are
  well-formed.
* `ClassDecl.rules_at_every_depth`: A class that calls make obeys the rules of
  the language, and so does every node in it.
-/

namespace JavaSource

open Outline

variable {n : Node}

theorem Reference.wellFormed_of_mem_preorder (r : Reference) :
    n ∈ (ofReference r).preorder → n.WellFormed := by
  induction r using Reference.inductionOn with
  | step r ih =>
      rw [mem_preorder_ofReference]
      rintro (rfl | ⟨g, hg, h⟩)
      · trivial
      · exact ih g hg h

theorem JavaType.wellFormed_of_mem_preorder (t : JavaType) (h : n ∈ (ofType t).preorder) :
    n.WellFormed := by
  rcases mem_preorder_ofType.mp h with rfl | ⟨r, _, h⟩
  · exact t.wellFormed
  · exact r.wellFormed_of_mem_preorder h

theorem AnnotationExpr.WellFormed.of_mem_preorder {a : AnnotationExpr} (ha : a.WellFormed)
    (h : n ∈ (ofAnnotationExpr a).preorder) : n.WellFormed := by
  rcases mem_preorder_ofAnnotationExpr.mp h with rfl | h
  · exact ha
  · exact a.type.wellFormed_of_mem_preorder h

theorem VariableExpr.WellFormed.of_mem_preorder {v : VariableExpr} (hv : v.WellFormed)
    (h : n ∈ (ofVariableExpr v).preorder) : n.WellFormed := by
  rcases mem_preorder_ofVariableExpr.mp h with rfl | h | rfl | rfl
  · exact .var hv
  · exact v.var.type.wellFormed_of_mem_preorder h
  · exact hv.var.identifier
  · trivial

theorem Expr.WellFormed.of_mem_preorder {e : Expr} (he : e.WellFormed) :
    n ∈ (ofExpr e).preorder → n.WellFormed := by
  -- The first node of each case is the expression itself, the others lie below.
  induction he with
  | @literal t text ht hprimitive hvoid harray htext =>
      rw [mem_preorder_literal]
      rintro (rfl | h)
      · exact .literal ht hprimitive hvoid harray htext
      · exact t.wellFormed_of_mem_preorder h
  | string text =>
      rw [mem_preorder_string]
      rintro (rfl | h)
      · exact .string text
      · exact JavaType.string.wellFormed_of_mem_preorder h
  | var hv => exact hv.of_mem_preorder
  | assignment ht hv ih =>
      rw [mem_preorder_assignment]
      rintro (rfl | h | h)
      · exact .assignment ht hv
      · exact ht.of_mem_preorder h
      · exact ih h
  | @call _ _ _ returnType _ _ hr hone hq hm ht ha ihr iha =>
      rw [mem_preorder_call]
      rintro (rfl | h | ⟨e, he, h⟩ | rfl | ⟨g, _, h⟩ | ⟨e, he, h⟩)
      · exact .call hr hone hq hm ht ha
      · exact returnType.wellFormed_of_mem_preorder h
      · exact ihr e he h
      · exact hm
      · exact g.wellFormed_of_mem_preorder h
      · exact iha e he h

theorem Stmt.WellFormed.of_mem_preorder {s : Stmt} (hs : s.WellFormed) :
    n ∈ (ofStmt s).preorder → n.WellFormed := by
  induction hs with
  | expr he =>
      rw [mem_preorder_exprStmt]
      rintro (rfl | h)
      · exact .expr he
      · exact he.of_mem_preorder h
  | ifElse hc hboolean hb hcs hbs he ihb ihbs ihe =>
      rw [mem_preorder_ifElse]
      rintro (rfl | h | ⟨s, hs, h⟩ | ⟨b, hm, h | ⟨s, hs, h⟩⟩ | ⟨s, hs, h⟩)
      · exact .ifElse hc hboolean hb hcs hbs he
      · exact hc.of_mem_preorder h
      · exact ihb s hs h
      · exact (hcs b hm).1.of_mem_preorder h
      · exact ihbs b hm s hs h
      · exact ihe s hs h
  | forEach hv hdeclared hc hb ihb =>
      rw [mem_preorder_forEach]
      rintro (rfl | h | h | ⟨s, hs, h⟩)
      · exact .forEach hv hdeclared hc hb
      · exact hv.of_mem_preorder h
      · exact hc.of_mem_preorder h
      · exact ihb s hs h
  | whileLoop hc hboolean hb ihb =>
      rw [mem_preorder_whileLoop]
      rintro (rfl | h | ⟨s, hs, h⟩)
      · exact .whileLoop hc hboolean hb
      · exact hc.of_mem_preorder h
      · exact ihb s hs h
  | tryCatch hr hb hv hcaught hcb ihb ihcb =>
      rw [mem_preorder_tryCatch]
      rintro (rfl | ⟨a, ha, h⟩ | ⟨s, hs, h⟩ | ⟨v, hvar, h⟩ | ⟨s, hs, h⟩)
      · exact .tryCatch hr hb hv hcaught hcb
      · exact (hr a ha).1.of_mem_preorder h
      · exact ihb s hs h
      · exact (hv v hvar).1.of_mem_preorder h
      · exact ihcb s hs h

theorem Method.WellFormed.of_mem_preorder {m : Method} (hm : m.WellFormed)
    (h : n ∈ (ofMethod m).preorder) : n.WellFormed := by
  rcases mem_preorder_ofMethod.mp h with rfl | rfl | h | rfl | ⟨a, ha, h⟩ | ⟨t, _, h⟩ |
    ⟨v, hv, h⟩ | ⟨s, hs, h⟩ | ⟨e, he, h⟩
  · exact hm
  · trivial
  · exact m.returnType.wellFormed_of_mem_preorder h
  · exact hm.identifier
  · exact (hm.annotations a ha).of_mem_preorder h
  · exact t.wellFormed_of_mem_preorder h
  · exact (hm.arguments v hv).1.of_mem_preorder h
  · exact (hm.body s hs).of_mem_preorder h
  · exact (hm.returnExpr e he).1.of_mem_preorder h

theorem ClassDecl.WellFormed.of_mem_preorder {c : ClassDecl} (hc : c.WellFormed) :
    n ∈ (ofClass c).preorder → n.WellFormed := by
  induction hc with
  | intro hproper hclasses ih =>
      rw [mem_preorder_ofClass]
      rintro (rfl | rfl | rfl | ⟨a, ha, h⟩ | ⟨t, _, h⟩ | ⟨t, _, h⟩ | ⟨s, hs, h⟩ | ⟨m, hm, h⟩ |
        ⟨d, hd, h⟩)
      · exact .intro hproper hclasses
      · trivial
      · exact hproper.identifier
      · exact (hproper.annotations a ha).of_mem_preorder h
      · exact t.wellFormed_of_mem_preorder h
      · exact t.wellFormed_of_mem_preorder h
      · exact (hproper.statements s hs).1.of_mem_preorder h
      · exact (hproper.methods m hm).of_mem_preorder h
      · exact ih d hd h

theorem Node.WellFormed.of_mem_preorder {m : Node} (hm : m.WellFormed)
    (h : n ∈ m.outline.preorder) : n.WellFormed := by
  cases m with
  | identifier i =>
      rw [outline, ofIdentifier, mem_preorder_node, mem_preorderAll_nil, or_false] at h
      rw [h]
      exact hm
  | scope s =>
      rw [outline, ofScope, mem_preorder_node, mem_preorderAll_nil, or_false] at h
      rw [h]
      trivial
  | reference r => exact r.wellFormed_of_mem_preorder h
  | type t => exact t.wellFormed_of_mem_preorder h
  | annotationExpr a => exact AnnotationExpr.WellFormed.of_mem_preorder hm h
  | expr e => exact Expr.WellFormed.of_mem_preorder hm h
  | stmt s => exact Stmt.WellFormed.of_mem_preorder hm h
  | method m => exact Method.WellFormed.of_mem_preorder hm h
  | classDecl c => exact ClassDecl.WellFormed.of_mem_preorder hm h

/-- A class that calls make obeys the rules of the language, and so does every
    node in it: the classes nested in it, their methods, and all statements,
    expressions, variables, types and names. -/
theorem ClassDecl.rules_at_every_depth {c : ClassDecl} (h : c.Built) :
    c.WellFormed ∧ ∀ n ∈ (ofClass c).preorder, n.WellFormed := by
  have hc : c.WellFormed := h.wellFormed
  exact ⟨hc, fun n hn => hc.of_mem_preorder hn⟩

/-- The rules hold at every depth of a class with a nested class that catches an
    exception inside a loop. In the nested class there is a choice whose conditions are
    all booleans, and a method that returns a value of the type it declares. -/
theorem ClassDecl.rules_in_shelf :
    ∃ c, (ClassDraft.shelf false).build.outcome = .ok c ∧
      c.WellFormed ∧ (∀ n ∈ (ofClass c).preorder, n.WellFormed) ∧
      (∃ condition body elseIfs elseBody,
        .stmt (.ifElse condition body elseIfs elseBody) ∈ (ofClass c).preorder ∧
          condition.HasType .boolean ∧ elseIfs ≠ [] ∧ ∀ b ∈ elseIfs, b.1.HasType .boolean) ∧
      ∃ m e, .method m ∈ (ofClass c).preorder ∧ m.returnExpr = some e ∧
        e.HasType .boolean ∧ (e.type == m.returnType) = true := by
  have hrules := rules_at_every_depth (ClassDraft.built_of_build (ClassDraft.shelf false) rfl)
  refine ⟨_, rfl, hrules.1, hrules.2, ⟨_, _, _, _, List.mem_of_getElem? (i := 60) rfl, ?_⟩,
    ⟨_, _, List.mem_of_getElem? (i := 52) rfl, rfl, ?_⟩⟩
  · -- That the conditions are booleans is a rule for the statement they stand in.
    cases hrules.2 _ (List.mem_of_getElem? (i := 60) rfl) with
    | ifElse _ hboolean _ hbooleans _ _ =>
        exact ⟨Expr.hasType_iff.mpr hboolean, List.cons_ne_nil _ _,
          fun b hb => Expr.hasType_iff.mpr (hbooleans b hb).2⟩
  · have hmethod : Method.WellFormed _ := hrules.2 _ (List.mem_of_getElem? (i := 52) rfl)
    exact ⟨.call _ _ _ _ _ _, (hmethod.returnExpr _ rfl).2⟩

end JavaSource
