import JavaSource.Proofs.Preorder

/-!
# Occurrences

What a tree refers to and whether sample code stands in it, said of the tree
itself. Nothing here walks: an occurrence is a way down from a node to a
reference, one constructor for each place where a part can stand, so a
statement about a walk that is measured against these predicates can neither
forget a place nor invent one.

A reference occurs in another if it is that other one or occurs in one of its
generic arguments. The superclass that a reference carries is no place where
anything occurs.

## Main definitions

* `Reference.Within`: A reference occurs in another.
* `JavaType.Mentions`, `Expr.Mentions`, `Stmt.Mentions`, `Method.Mentions`,
  `ClassDecl.Mentions`: A reference occurs in a node of each sort.
* `Stmt.HasSample`, `Method.HasSample`, `ClassDecl.HasSample`: Sample code
  stands in a node of each sort.
* `Node.Mentions`, `Node.HasSample`: The same for a node of any sort.
* `Node.isSample`: The node itself is a piece of sample code.

## Theorems

* `Node.reference_mem_preorder`: The references among the nodes of a tree are
  those that occur in it.
* `Node.exists_isSample_iff`: There is sample code among the nodes of a tree
  exactly if it stands in the tree.
-/

namespace JavaSource

/-- A reference is another one, or occurs in its generic arguments. -/
inductive Reference.Within (r : Reference) : Reference → Prop where
  | self : Within r r
  | generic {s g : Reference} (hg : g ∈ s.generics) (h : Within r g) : Within r s

/-- A reference occurs in a type. -/
def JavaType.Mentions (t : JavaType) (r : Reference) : Prop :=
  ∃ s, t.reference? = some s ∧ r.Within s

/-- A reference occurs in an annotation. -/
def AnnotationExpr.Mentions (a : AnnotationExpr) (r : Reference) : Prop :=
  a.type.Mentions r

/-- A reference occurs where a variable is declared or used. -/
def VariableExpr.Mentions (v : VariableExpr) (r : Reference) : Prop :=
  v.var.type.Mentions r

/-- A reference occurs in an expression. -/
inductive Expr.Mentions (r : Reference) : Expr → Prop where
  | literal {t text} (h : t.Mentions r) : Mentions r (.literal t text)
  | string {text} (h : JavaType.string.Mentions r) : Mentions r (.string text)
  | var {v} (h : v.Mentions r) : Mentions r (.var v)
  | target {target value} (h : target.Mentions r) : Mentions r (.assignment target value)
  | value {target value} (h : Mentions r value) : Mentions r (.assignment target value)
  | returnType {receiver qualifier method returnType arguments generics}
      (h : returnType.Mentions r) :
      Mentions r (.call receiver qualifier method returnType arguments generics)
  | receiver {receiver qualifier method returnType arguments generics e} (he : e ∈ receiver)
      (h : Mentions r e) :
      Mentions r (.call receiver qualifier method returnType arguments generics)
  | generic {receiver qualifier method returnType arguments generics g} (hg : g ∈ generics)
      (h : r.Within g) :
      Mentions r (.call receiver qualifier method returnType arguments generics)
  | argument {receiver qualifier method returnType arguments generics e} (he : e ∈ arguments)
      (h : Mentions r e) :
      Mentions r (.call receiver qualifier method returnType arguments generics)

/-- A reference occurs in a statement. -/
inductive Stmt.Mentions (r : Reference) : Stmt → Prop where
  | expr {e} (h : e.Mentions r) : Mentions r (.expr e)
  | ifCondition {condition body elseIfs elseBody} (h : condition.Mentions r) :
      Mentions r (.ifElse condition body elseIfs elseBody)
  | ifBody {condition body elseIfs elseBody s} (hs : s ∈ body) (h : Mentions r s) :
      Mentions r (.ifElse condition body elseIfs elseBody)
  | elseIfCondition {condition body elseIfs elseBody b} (hb : b ∈ elseIfs)
      (h : b.1.Mentions r) : Mentions r (.ifElse condition body elseIfs elseBody)
  | elseIfBody {condition body elseIfs elseBody b s} (hb : b ∈ elseIfs) (hs : s ∈ b.2)
      (h : Mentions r s) : Mentions r (.ifElse condition body elseIfs elseBody)
  | elseBody {condition body elseIfs elseBody s} (hs : s ∈ elseBody) (h : Mentions r s) :
      Mentions r (.ifElse condition body elseIfs elseBody)
  | loopVariable {v collection body} (h : v.Mentions r) : Mentions r (.forEach v collection body)
  | collection {v collection body} (h : collection.Mentions r) :
      Mentions r (.forEach v collection body)
  | forBody {v collection body s} (hs : s ∈ body) (h : Mentions r s) :
      Mentions r (.forEach v collection body)
  | whileCondition {condition body} (h : condition.Mentions r) :
      Mentions r (.whileLoop condition body)
  | whileBody {condition body s} (hs : s ∈ body) (h : Mentions r s) :
      Mentions r (.whileLoop condition body)
  | resource {resource body v catchBody isSample a} (ha : a ∈ resource)
      (h : a.toExpr.Mentions r) : Mentions r (.tryCatch resource body v catchBody isSample)
  | tryBody {resource body v catchBody isSample s} (hs : s ∈ body) (h : Mentions r s) :
      Mentions r (.tryCatch resource body v catchBody isSample)
  | catchVariable {resource body v catchBody isSample v'} (hv : v' ∈ v) (h : v'.Mentions r) :
      Mentions r (.tryCatch resource body v catchBody isSample)
  | catchBody {resource body v catchBody isSample s} (hs : s ∈ catchBody) (h : Mentions r s) :
      Mentions r (.tryCatch resource body v catchBody isSample)

/-- A reference occurs in a method. -/
inductive Method.Mentions (r : Reference) (m : Method) : Prop where
  | returnType (h : m.returnType.Mentions r)
  | annotated {a} (ha : a ∈ m.annotations) (h : a.Mentions r)
  | throwsType {t} (ht : t ∈ m.throwsTypes) (h : t.Mentions r)
  | argument {v} (hv : v ∈ m.arguments) (h : v.Mentions r)
  | body {s} (hs : s ∈ m.body) (h : s.Mentions r)
  | returnExpr {e} (he : e ∈ m.returnExpr) (h : e.Mentions r)

/-- A reference occurs in a class, at any depth of nesting. -/
inductive ClassDecl.Mentions (r : Reference) : ClassDecl → Prop where
  | annotated {c a} (ha : a ∈ c.annotations) (h : a.Mentions r) : Mentions r c
  | implementsType {c t} (ht : t ∈ c.implementsTypes) (h : t.Mentions r) : Mentions r c
  | extendsType {c t} (ht : t ∈ c.extendsType) (h : t.Mentions r) : Mentions r c
  | statement {c s} (hs : s ∈ c.statements) (h : s.Mentions r) : Mentions r c
  | method {c m} (hm : m ∈ c.methods) (h : m.Mentions r) : Mentions r c
  | nested {c d} (hd : d ∈ c.classes) (h : Mentions r d) : Mentions r c

/-- A reference occurs in a node. -/
def Node.Mentions (n : Node) (r : Reference) : Prop :=
  match n with
  | identifier _ => False
  | scope _ => False
  | reference s => r.Within s
  | type t => t.Mentions r
  | annotationExpr a => a.Mentions r
  | expr e => e.Mentions r
  | stmt s => s.Mentions r
  | method m => m.Mentions r
  | classDecl c => c.Mentions r

/-- A statement is sample code, or sample code stands in one of its bodies. -/
inductive Stmt.HasSample : Stmt → Prop where
  | sample {resource body v catchBody} : HasSample (.tryCatch resource body v catchBody true)
  | ifBody {condition body elseIfs elseBody s} (hs : s ∈ body) (h : HasSample s) :
      HasSample (.ifElse condition body elseIfs elseBody)
  | elseIfBody {condition body elseIfs elseBody b s} (hb : b ∈ elseIfs) (hs : s ∈ b.2)
      (h : HasSample s) : HasSample (.ifElse condition body elseIfs elseBody)
  | elseBody {condition body elseIfs elseBody s} (hs : s ∈ elseBody) (h : HasSample s) :
      HasSample (.ifElse condition body elseIfs elseBody)
  | forBody {v collection body s} (hs : s ∈ body) (h : HasSample s) :
      HasSample (.forEach v collection body)
  | whileBody {condition body s} (hs : s ∈ body) (h : HasSample s) :
      HasSample (.whileLoop condition body)
  | tryBody {resource body v catchBody isSample s} (hs : s ∈ body) (h : HasSample s) :
      HasSample (.tryCatch resource body v catchBody isSample)
  | catchBody {resource body v catchBody isSample s} (hs : s ∈ catchBody) (h : HasSample s) :
      HasSample (.tryCatch resource body v catchBody isSample)

/-- Sample code stands in a method. -/
def Method.HasSample (m : Method) : Prop :=
  ∃ s ∈ m.body, s.HasSample

/-- Sample code stands in a class, at any depth of nesting. -/
inductive ClassDecl.HasSample : ClassDecl → Prop where
  | statement {c s} (hs : s ∈ c.statements) (h : s.HasSample) : HasSample c
  | method {c m} (hm : m ∈ c.methods) (h : m.HasSample) : HasSample c
  | nested {c d} (hd : d ∈ c.classes) (h : HasSample d) : HasSample c

/-- Sample code stands in a node. Only statements have bodies for it. -/
def Node.HasSample : Node → Prop
  | stmt s => s.HasSample
  | method m => m.HasSample
  | classDecl c => c.HasSample
  | _ => False

open Outline

/-! ### The references of a tree -/

section References

variable {r : Reference}

theorem Reference.within_iff {s : Reference} :
    r.Within s ↔ r = s ∨ ∃ g ∈ s.generics, r.Within g := by
  constructor
  · intro h
    cases h with
    | self => exact Or.inl rfl
    | generic hg h => exact Or.inr ⟨_, hg, h⟩
  · rintro (rfl | ⟨g, hg, h⟩)
    · exact .self
    · exact .generic hg h

theorem Reference.reference_mem_preorder (s : Reference) :
    .reference r ∈ (ofReference s).preorder ↔ r.Within s := by
  induction s using Reference.inductionOn with
  | step s ih =>
      rw [mem_preorder_ofReference, within_iff, Node.reference.injEq]
      exact or_congr_right (exists_congr (fun g => and_congr_right (fun hg => ih g hg)))

theorem JavaType.reference_mem_preorder (t : JavaType) :
    .reference r ∈ (ofType t).preorder ↔ t.Mentions r := by
  simp only [mem_preorder_ofType, reduceCtorEq, false_or, Reference.reference_mem_preorder]
  rfl

theorem AnnotationExpr.reference_mem_preorder (a : AnnotationExpr) :
    .reference r ∈ (ofAnnotationExpr a).preorder ↔ a.Mentions r := by
  simp only [mem_preorder_ofAnnotationExpr, reduceCtorEq, false_or,
    JavaType.reference_mem_preorder]
  rfl

theorem VariableExpr.reference_mem_preorder (v : VariableExpr) :
    .reference r ∈ (ofVariableExpr v).preorder ↔ v.Mentions r := by
  simp only [mem_preorder_ofVariableExpr, reduceCtorEq, false_or, or_false,
    JavaType.reference_mem_preorder]
  rfl

theorem Expr.reference_mem_preorder (e : Expr) :
    .reference r ∈ (ofExpr e).preorder ↔ e.Mentions r := by
  induction e using Expr.inductionOn with
  | literal t text =>
      simp only [mem_preorder_literal, reduceCtorEq, false_or, JavaType.reference_mem_preorder]
      exact ⟨.literal, fun h => by cases h; assumption⟩
  | string text =>
      simp only [mem_preorder_string, reduceCtorEq, false_or, JavaType.reference_mem_preorder]
      exact ⟨.string, fun h => by cases h; assumption⟩
  | var v =>
      rw [ofExpr, VariableExpr.reference_mem_preorder]
      exact ⟨.var, fun h => by cases h; assumption⟩
  | assignment target value ih =>
      simp only [mem_preorder_assignment, reduceCtorEq, false_or,
        VariableExpr.reference_mem_preorder, ih]
      constructor
      · rintro (h | h)
        · exact .target h
        · exact .value h
      · intro h
        cases h with
        | target h => exact Or.inl h
        | value h => exact Or.inr h
  | call receiver qualifier method returnType arguments generics ihr iha =>
      simp only [mem_preorder_call, reduceCtorEq, false_or, JavaType.reference_mem_preorder,
        Reference.reference_mem_preorder]
      constructor
      · rintro (h | ⟨e, he, h⟩ | ⟨g, hg, h⟩ | ⟨e, he, h⟩)
        · exact .returnType h
        · exact .receiver he ((ihr e he).mp h)
        · exact .generic hg h
        · exact .argument he ((iha e he).mp h)
      · intro h
        cases h with
        | returnType h => exact Or.inl h
        | receiver he h => exact Or.inr (Or.inl ⟨_, he, (ihr _ he).mpr h⟩)
        | generic hg h => exact Or.inr (Or.inr (Or.inl ⟨_, hg, h⟩))
        | argument he h => exact Or.inr (Or.inr (Or.inr ⟨_, he, (iha _ he).mpr h⟩))

theorem Stmt.reference_mem_preorder (s : Stmt) :
    .reference r ∈ (ofStmt s).preorder ↔ s.Mentions r := by
  induction s using Stmt.inductionOn with
  | expr e =>
      simp only [mem_preorder_exprStmt, reduceCtorEq, false_or, Expr.reference_mem_preorder]
      exact ⟨.expr, fun h => by cases h; assumption⟩
  | ifElse condition body elseIfs elseBody ihb ihi ihe =>
      simp only [mem_preorder_ifElse, reduceCtorEq, false_or, Expr.reference_mem_preorder]
      constructor
      · rintro (h | ⟨s, hs, h⟩ | ⟨b, hb, h | ⟨s, hs, h⟩⟩ | ⟨s, hs, h⟩)
        · exact .ifCondition h
        · exact .ifBody hs ((ihb s hs).mp h)
        · exact .elseIfCondition hb h
        · exact .elseIfBody hb hs ((ihi b hb s hs).mp h)
        · exact .elseBody hs ((ihe s hs).mp h)
      · intro h
        cases h with
        | ifCondition h => exact Or.inl h
        | ifBody hs h => exact Or.inr (Or.inl ⟨_, hs, (ihb _ hs).mpr h⟩)
        | elseIfCondition hb h => exact Or.inr (Or.inr (Or.inl ⟨_, hb, Or.inl h⟩))
        | elseIfBody hb hs h =>
            exact Or.inr (Or.inr (Or.inl ⟨_, hb, Or.inr ⟨_, hs, (ihi _ hb _ hs).mpr h⟩⟩))
        | elseBody hs h => exact Or.inr (Or.inr (Or.inr ⟨_, hs, (ihe _ hs).mpr h⟩))
  | forEach v collection body ihb =>
      simp only [mem_preorder_forEach, reduceCtorEq, false_or,
        VariableExpr.reference_mem_preorder, Expr.reference_mem_preorder]
      constructor
      · rintro (h | h | ⟨s, hs, h⟩)
        · exact .loopVariable h
        · exact .collection h
        · exact .forBody hs ((ihb s hs).mp h)
      · intro h
        cases h with
        | loopVariable h => exact Or.inl h
        | collection h => exact Or.inr (Or.inl h)
        | forBody hs h => exact Or.inr (Or.inr ⟨_, hs, (ihb _ hs).mpr h⟩)
  | whileLoop condition body ihb =>
      simp only [mem_preorder_whileLoop, reduceCtorEq, false_or, Expr.reference_mem_preorder]
      constructor
      · rintro (h | ⟨s, hs, h⟩)
        · exact .whileCondition h
        · exact .whileBody hs ((ihb s hs).mp h)
      · intro h
        cases h with
        | whileCondition h => exact Or.inl h
        | whileBody hs h => exact Or.inr ⟨_, hs, (ihb _ hs).mpr h⟩
  | tryCatch resource body v catchBody isSample ihb ihc =>
      simp only [mem_preorder_tryCatch, reduceCtorEq, false_or, Expr.reference_mem_preorder,
        VariableExpr.reference_mem_preorder]
      constructor
      · rintro (⟨a, ha, h⟩ | ⟨s, hs, h⟩ | ⟨v', hv, h⟩ | ⟨s, hs, h⟩)
        · exact .resource ha h
        · exact .tryBody hs ((ihb s hs).mp h)
        · exact .catchVariable hv h
        · exact .catchBody hs ((ihc s hs).mp h)
      · intro h
        cases h with
        | resource ha h => exact Or.inl ⟨_, ha, h⟩
        | tryBody hs h => exact Or.inr (Or.inl ⟨_, hs, (ihb _ hs).mpr h⟩)
        | catchVariable hv h => exact Or.inr (Or.inr (Or.inl ⟨_, hv, h⟩))
        | catchBody hs h => exact Or.inr (Or.inr (Or.inr ⟨_, hs, (ihc _ hs).mpr h⟩))

theorem Method.reference_mem_preorder (m : Method) :
    .reference r ∈ (ofMethod m).preorder ↔ m.Mentions r := by
  simp only [mem_preorder_ofMethod, reduceCtorEq, false_or, JavaType.reference_mem_preorder,
    AnnotationExpr.reference_mem_preorder, VariableExpr.reference_mem_preorder,
    Stmt.reference_mem_preorder, Expr.reference_mem_preorder]
  constructor
  · rintro (h | ⟨a, ha, h⟩ | ⟨t, ht, h⟩ | ⟨v, hv, h⟩ | ⟨s, hs, h⟩ | ⟨e, he, h⟩)
    · exact .returnType h
    · exact .annotated ha h
    · exact .throwsType ht h
    · exact .argument hv h
    · exact .body hs h
    · exact .returnExpr he h
  · intro h
    cases h with
    | returnType h => exact Or.inl h
    | annotated ha h => exact Or.inr (Or.inl ⟨_, ha, h⟩)
    | throwsType ht h => exact Or.inr (Or.inr (Or.inl ⟨_, ht, h⟩))
    | argument hv h => exact Or.inr (Or.inr (Or.inr (Or.inl ⟨_, hv, h⟩)))
    | body hs h => exact Or.inr (Or.inr (Or.inr (Or.inr (Or.inl ⟨_, hs, h⟩))))
    | returnExpr he h => exact Or.inr (Or.inr (Or.inr (Or.inr (Or.inr ⟨_, he, h⟩))))

theorem ClassDecl.reference_mem_preorder (c : ClassDecl) :
    .reference r ∈ (ofClass c).preorder ↔ c.Mentions r := by
  induction c using ClassDecl.inductionOn with
  | step c ih =>
      rw [mem_preorder_ofClass]
      simp only [reduceCtorEq, false_or, JavaType.reference_mem_preorder,
        AnnotationExpr.reference_mem_preorder, Stmt.reference_mem_preorder,
        Method.reference_mem_preorder]
      constructor
      · rintro (⟨a, ha, h⟩ | ⟨t, ht, h⟩ | ⟨t, ht, h⟩ | ⟨s, hs, h⟩ | ⟨m, hm, h⟩ | ⟨d, hd, h⟩)
        · exact .annotated ha h
        · exact .implementsType ht h
        · exact .extendsType ht h
        · exact .statement hs h
        · exact .method hm h
        · exact .nested hd ((ih d hd).mp h)
      · intro h
        cases h with
        | annotated ha h => exact Or.inl ⟨_, ha, h⟩
        | implementsType ht h => exact Or.inr (Or.inl ⟨_, ht, h⟩)
        | extendsType ht h => exact Or.inr (Or.inr (Or.inl ⟨_, ht, h⟩))
        | statement hs h => exact Or.inr (Or.inr (Or.inr (Or.inl ⟨_, hs, h⟩)))
        | method hm h => exact Or.inr (Or.inr (Or.inr (Or.inr (Or.inl ⟨_, hm, h⟩))))
        | nested hd h =>
            exact Or.inr (Or.inr (Or.inr (Or.inr (Or.inr ⟨_, hd, (ih _ hd).mpr h⟩))))

/-- The references among the nodes of a tree are those that occur in it. -/
theorem Node.reference_mem_preorder (n : Node) :
    .reference r ∈ n.outline.preorder ↔ n.Mentions r := by
  cases n with
  | identifier i =>
      simp only [outline, ofIdentifier, mem_preorder_node, mem_preorderAll_nil, reduceCtorEq,
        or_false, Mentions]
  | scope s =>
      simp only [outline, ofScope, mem_preorder_node, mem_preorderAll_nil, reduceCtorEq,
        or_false, Mentions]
  | reference s => exact Reference.reference_mem_preorder s
  | type t => exact JavaType.reference_mem_preorder t
  | annotationExpr a => exact AnnotationExpr.reference_mem_preorder a
  | expr e => exact Expr.reference_mem_preorder e
  | stmt s => exact Stmt.reference_mem_preorder s
  | method m => exact Method.reference_mem_preorder m
  | classDecl c => exact ClassDecl.reference_mem_preorder c

end References

/-! ### The sample code of a tree -/

/-- The node is a piece of sample code. -/
def Node.isSample : Node → Bool
  | stmt (.tryCatch _ _ _ _ isSample) => isSample
  | _ => false

section Samples

variable {m : Node}

theorem Reference.not_isSample (r : Reference) :
    m ∈ (ofReference r).preorder → ¬ m.isSample = true := by
  induction r using Reference.inductionOn with
  | step r ih =>
      rw [mem_preorder_ofReference]
      rintro (rfl | ⟨g, hg, h⟩)
      · exact Bool.false_ne_true
      · exact ih g hg h

theorem JavaType.not_isSample (t : JavaType) (h : m ∈ (ofType t).preorder) :
    ¬ m.isSample = true := by
  rcases mem_preorder_ofType.mp h with rfl | ⟨r, _, h⟩
  · exact Bool.false_ne_true
  · exact r.not_isSample h

theorem AnnotationExpr.not_isSample (a : AnnotationExpr) (h : m ∈ (ofAnnotationExpr a).preorder) :
    ¬ m.isSample = true := by
  rcases mem_preorder_ofAnnotationExpr.mp h with rfl | h
  · exact Bool.false_ne_true
  · exact a.type.not_isSample h

theorem VariableExpr.not_isSample (v : VariableExpr) (h : m ∈ (ofVariableExpr v).preorder) :
    ¬ m.isSample = true := by
  rcases mem_preorder_ofVariableExpr.mp h with rfl | h | rfl | rfl
  · exact Bool.false_ne_true
  · exact v.var.type.not_isSample h
  · exact Bool.false_ne_true
  · exact Bool.false_ne_true

/-- Expressions have no bodies, so no sample code. -/
theorem Expr.not_isSample (e : Expr) : m ∈ (ofExpr e).preorder → ¬ m.isSample = true := by
  induction e using Expr.inductionOn with
  | literal t text =>
      rw [mem_preorder_literal]
      rintro (rfl | h)
      · exact Bool.false_ne_true
      · exact t.not_isSample h
  | string text =>
      rw [mem_preorder_string]
      rintro (rfl | h)
      · exact Bool.false_ne_true
      · exact JavaType.string.not_isSample h
  | var v => exact v.not_isSample
  | assignment target value ih =>
      rw [mem_preorder_assignment]
      rintro (rfl | h | h)
      · exact Bool.false_ne_true
      · exact target.not_isSample h
      · exact ih h
  | call receiver qualifier method returnType arguments generics ihr iha =>
      rw [mem_preorder_call]
      rintro (rfl | h | ⟨e, he, h⟩ | rfl | ⟨g, _, h⟩ | ⟨e, he, h⟩)
      · exact Bool.false_ne_true
      · exact returnType.not_isSample h
      · exact ihr e he h
      · exact Bool.false_ne_true
      · exact g.not_isSample h
      · exact iha e he h

theorem Stmt.HasSample.exists_isSample {s : Stmt} (h : s.HasSample) :
    ∃ m ∈ (ofStmt s).preorder, m.isSample = true := by
  induction h with
  | sample => exact ⟨_, mem_preorder_tryCatch.mpr (Or.inl rfl), rfl⟩
  | ifBody hs _ ih =>
      rcases ih with ⟨m, hm, hsample⟩
      exact ⟨m, mem_preorder_ifElse.mpr (Or.inr (Or.inr (Or.inl ⟨_, hs, hm⟩))), hsample⟩
  | elseIfBody hb hs _ ih =>
      rcases ih with ⟨m, hm, hsample⟩
      exact ⟨m, mem_preorder_ifElse.mpr
        (Or.inr (Or.inr (Or.inr (Or.inl ⟨_, hb, Or.inr ⟨_, hs, hm⟩⟩)))), hsample⟩
  | elseBody hs _ ih =>
      rcases ih with ⟨m, hm, hsample⟩
      exact ⟨m, mem_preorder_ifElse.mpr (Or.inr (Or.inr (Or.inr (Or.inr ⟨_, hs, hm⟩)))), hsample⟩
  | forBody hs _ ih =>
      rcases ih with ⟨m, hm, hsample⟩
      exact ⟨m, mem_preorder_forEach.mpr (Or.inr (Or.inr (Or.inr ⟨_, hs, hm⟩))), hsample⟩
  | whileBody hs _ ih =>
      rcases ih with ⟨m, hm, hsample⟩
      exact ⟨m, mem_preorder_whileLoop.mpr (Or.inr (Or.inr ⟨_, hs, hm⟩)), hsample⟩
  | tryBody hs _ ih =>
      rcases ih with ⟨m, hm, hsample⟩
      exact ⟨m, mem_preorder_tryCatch.mpr (Or.inr (Or.inr (Or.inl ⟨_, hs, hm⟩))), hsample⟩
  | catchBody hs _ ih =>
      rcases ih with ⟨m, hm, hsample⟩
      exact ⟨m, mem_preorder_tryCatch.mpr (Or.inr (Or.inr (Or.inr (Or.inr ⟨_, hs, hm⟩)))),
        hsample⟩

theorem Stmt.hasSample_of_isSample (s : Stmt) (hsample : m.isSample = true) :
    m ∈ (ofStmt s).preorder → s.HasSample := by
  induction s using Stmt.inductionOn with
  | expr e =>
      rw [mem_preorder_exprStmt]
      rintro (rfl | h)
      · cases hsample
      · exact absurd hsample (e.not_isSample h)
  | ifElse condition body elseIfs elseBody ihb ihi ihe =>
      rw [mem_preorder_ifElse]
      rintro (rfl | h | ⟨s, hs, h⟩ | ⟨b, hb, h | ⟨s, hs, h⟩⟩ | ⟨s, hs, h⟩)
      · cases hsample
      · exact absurd hsample (condition.not_isSample h)
      · exact .ifBody hs (ihb s hs h)
      · exact absurd hsample (b.1.not_isSample h)
      · exact .elseIfBody hb hs (ihi b hb s hs h)
      · exact .elseBody hs (ihe s hs h)
  | forEach v collection body ihb =>
      rw [mem_preorder_forEach]
      rintro (rfl | h | h | ⟨s, hs, h⟩)
      · cases hsample
      · exact absurd hsample (v.not_isSample h)
      · exact absurd hsample (collection.not_isSample h)
      · exact .forBody hs (ihb s hs h)
  | whileLoop condition body ihb =>
      rw [mem_preorder_whileLoop]
      rintro (rfl | h | ⟨s, hs, h⟩)
      · cases hsample
      · exact absurd hsample (condition.not_isSample h)
      · exact .whileBody hs (ihb s hs h)
  | tryCatch resource body v catchBody isSample ihb ihc =>
      rw [mem_preorder_tryCatch]
      rintro (rfl | ⟨a, _, h⟩ | ⟨s, hs, h⟩ | ⟨v', _, h⟩ | ⟨s, hs, h⟩)
      · -- The statement itself: its mark is what makes it sample code.
        cases hsample
        exact .sample
      · exact absurd hsample (a.toExpr.not_isSample h)
      · exact .tryBody hs (ihb s hs h)
      · exact absurd hsample (v'.not_isSample h)
      · exact .catchBody hs (ihc s hs h)

theorem Stmt.exists_isSample_iff (s : Stmt) :
    (∃ m ∈ (ofStmt s).preorder, m.isSample = true) ↔ s.HasSample :=
  ⟨fun ⟨_, hm, hsample⟩ => s.hasSample_of_isSample hsample hm, fun h => h.exists_isSample⟩

theorem Method.exists_isSample_iff (method : Method) :
    (∃ m ∈ (ofMethod method).preorder, m.isSample = true) ↔ method.HasSample := by
  constructor
  · rintro ⟨m, hm, hsample⟩
    rcases mem_preorder_ofMethod.mp hm with rfl | rfl | h | rfl | ⟨a, _, h⟩ | ⟨t, _, h⟩ |
      ⟨v, _, h⟩ | ⟨s, hs, h⟩ | ⟨e, _, h⟩
    · cases hsample
    · cases hsample
    · exact absurd hsample (JavaType.not_isSample _ h)
    · cases hsample
    · exact absurd hsample (a.not_isSample h)
    · exact absurd hsample (t.not_isSample h)
    · exact absurd hsample (v.not_isSample h)
    · exact ⟨s, hs, s.hasSample_of_isSample hsample h⟩
    · exact absurd hsample (e.not_isSample h)
  · rintro ⟨s, hs, h⟩
    rcases h.exists_isSample with ⟨m, hm, hsample⟩
    -- The statement is one of the many parts of the method.
    exact ⟨m, mem_preorder_ofMethod.mpr (by grind), hsample⟩

theorem ClassDecl.exists_isSample_iff (c : ClassDecl) :
    (∃ m ∈ (ofClass c).preorder, m.isSample = true) ↔ c.HasSample := by
  induction c using ClassDecl.inductionOn with
  | step c ih =>
      constructor
      · rintro ⟨m, hm, hsample⟩
        rcases mem_preorder_ofClass.mp hm with rfl | rfl | rfl | ⟨a, _, h⟩ | ⟨t, _, h⟩ |
          ⟨t, _, h⟩ | ⟨s, hs, h⟩ | ⟨method, hmethod, h⟩ | ⟨d, hd, h⟩
        · cases hsample
        · cases hsample
        · cases hsample
        · exact absurd hsample (a.not_isSample h)
        · exact absurd hsample (t.not_isSample h)
        · exact absurd hsample (t.not_isSample h)
        · exact .statement hs (s.hasSample_of_isSample hsample h)
        · exact .method hmethod (method.exists_isSample_iff.mp ⟨m, h, hsample⟩)
        · exact .nested hd ((ih d hd).mp ⟨m, h, hsample⟩)
      · intro h
        cases h with
        | statement hs h =>
            rcases h.exists_isSample with ⟨m, hm, hsample⟩
            exact ⟨m, mem_preorder_ofClass.mpr (by grind), hsample⟩
        | method hmethod h =>
            rcases (Method.exists_isSample_iff _).mpr h with ⟨m, hm, hsample⟩
            exact ⟨m, mem_preorder_ofClass.mpr (by grind), hsample⟩
        | nested hd h =>
            rcases (ih _ hd).mpr h with ⟨m, hm, hsample⟩
            exact ⟨m, mem_preorder_ofClass.mpr (by grind), hsample⟩

/-- There is sample code among the nodes of a tree exactly if it stands in the
    tree. -/
theorem Node.exists_isSample_iff (n : Node) :
    (∃ m ∈ n.outline.preorder, m.isSample = true) ↔ n.HasSample := by
  have hnone : (∀ m ∈ n.outline.preorder, ¬ m.isSample = true) →
      ((∃ m ∈ n.outline.preorder, m.isSample = true) ↔ False) :=
    fun h => ⟨fun ⟨m, hm, hsample⟩ => h m hm hsample, False.elim⟩
  cases n with
  | identifier i =>
      refine hnone (fun m hm => ?_)
      rw [outline, ofIdentifier, mem_preorder_node, mem_preorderAll_nil, or_false] at hm
      subst hm
      exact Bool.false_ne_true
  | scope s =>
      refine hnone (fun m hm => ?_)
      rw [outline, ofScope, mem_preorder_node, mem_preorderAll_nil, or_false] at hm
      subst hm
      exact Bool.false_ne_true
  | reference r => exact hnone (fun m hm => r.not_isSample hm)
  | type t => exact hnone (fun m hm => t.not_isSample hm)
  | annotationExpr a => exact hnone (fun m hm => a.not_isSample hm)
  | expr e => exact hnone (fun m hm => e.not_isSample hm)
  | stmt s => exact s.exists_isSample_iff
  | method m => exact m.exists_isSample_iff
  | classDecl c => exact c.exists_isSample_iff

instance (n : Node) : Decidable n.HasSample :=
  decidable_of_iff (n.outline.preorder.any Node.isSample = true)
    (List.any_eq_true.trans n.exists_isSample_iff)

end Samples

end JavaSource
