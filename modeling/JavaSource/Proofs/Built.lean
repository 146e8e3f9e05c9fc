import JavaSource.Draft
import JavaSource.Outline
import JavaSource.Proofs.Outcome

/-!
# Built Nodes

Which nodes a caller can come to hold. A node is *built* if some sequence of
calls makes it: every constant is built, and whatever a function that makes
nodes returns for built parts is built. That is a closure, so it is an
inductive predicate for each sort of node, with one constructor for each way
to make a node of that sort.

Some ways bypass the builders: the constant types, the marker annotations, a
variable that is declared or used without further ado, an assignment put
together from its two sides. They have constructors of their own, which assert
the finished node and no check at all, so whoever proves something of all
built nodes has to prove it for them as well.

A reference is any record of its fields, since nothing is checked when it is
made. So there is no predicate for references.

Drafts describe calls in which every node has a description of its own.
`ClassDraft.built_of_build` and its companions say that what a draft builds is
built in the sense of this module.

## Main definitions

* `JavaType.Built`, `AnnotationExpr.Built`, `Variable.Built`,
  `VariableExpr.Built`, `Expr.Built`, `Assignment.Built`, `Stmt.Built`,
  `Method.Built`, `ClassDecl.Built`: The nodes of each sort that calls make.
* `Node.Built`: The nodes of any sort that calls make.
* `ClassDraft.shelf`: A draft that uses most of the calls.

## Theorems

* `ExprDraft.built_of_build`, `StmtDraft.built_of_build`,
  `MethodDraft.built_of_build`, `ClassDraft.built_of_build`: Drafts build
  built nodes.
-/

namespace JavaSource

/-- The types that calls make. -/
inductive JavaType.Built : JavaType → Prop where
  | void : Built .void
  | int : Built (.primitive .int false)
  | boolean : Built .boolean
  | ofKind {kind : TypeKind} {isArray : Bool} {t : JavaType}
      (h : (JavaType.ofKind kind isArray).outcome = .ok t) : Built t
  | ofException {r : Reference} {t : JavaType}
      (h : (JavaType.ofException r).outcome = .ok t) : Built t
  | ofReference (r : Reference) (isArray : Bool) : Built (.reference r isArray)

/-- The annotations that calls make. -/
inductive AnnotationExpr.Built : AnnotationExpr → Prop where
  | overrideMarker : Built .overrideMarker
  | deprecatedMarker : Built .deprecatedMarker
  | suppressWarnings (value : String) : Built (.suppressWarnings value)
  | ofType {t : JavaType} {value : Option String} {a : AnnotationExpr} (ht : t.Built)
      (h : (AnnotationExpr.ofType t value).outcome = .ok a) : Built a

/-- The variables that calls make. -/
inductive Variable.Built : Variable → Prop where
  | make {name : String} {t : JavaType} {v : Variable} (ht : t.Built)
      (h : (Variable.make name t).outcome = .ok v) : Built v

/-- The occurrences of variables that calls make. Uses and declarations need
    not go through the builder. -/
inductive VariableExpr.Built : VariableExpr → Prop where
  | use {v : Variable} (hv : v.Built) : Built ⟨v, false, .localScope⟩
  | declaration {v : Variable} (scope : Scope) (hv : v.Built) : Built ⟨v, true, scope⟩
  | ofParts {p : VariableExpr.Parts} {e : VariableExpr} (hv : ∀ v ∈ p.var, v.Built)
      (h : p.build.outcome = .ok e) : Built e

/-- The expressions that calls make. An assignment need not go through its
    builder. -/
inductive Expr.Built : Expr → Prop where
  | literal {t : JavaType} {text : String} {e : Expr} (ht : t.Built)
      (h : (Expr.makeLiteral t text).outcome = .ok e) : Built e
  | string (text : String) : Built (.string text)
  | var {v : VariableExpr} (hv : v.Built) : Built (.var v)
  | assignment {target : VariableExpr} {value : Expr} (ht : target.Built) (hv : Built value) :
      Built (.assignment target value)
  | ofAssignmentParts {p : Assignment.Parts} {a : Assignment} (ht : ∀ v ∈ p.target, v.Built)
      (hv : ∀ e ∈ p.value, Built e) (h : p.build.outcome = .ok a) : Built a.toExpr
  | ofCallParts {p : Expr.CallParts} {e : Expr} (hr : ∀ e ∈ p.receiver, Built e)
      (ht : ∀ t ∈ p.returnType, t.Built) (ha : ∀ e ∈ p.arguments, Built e)
      (h : p.build.outcome = .ok e) : Built e

/-- An assignment on its own is made like one that stands as an expression. -/
def Assignment.Built (a : Assignment) : Prop :=
  a.toExpr.Built

/-- The statements that calls make. -/
inductive Stmt.Built : Stmt → Prop where
  | expr {e : Expr} (he : e.Built) : Built (.expr e)
  | ofIfParts {p : IfParts} {s : Stmt} (hc : ∀ e ∈ p.condition, e.Built)
      (hb : ∀ s ∈ p.body, Built s) (hcs : ∀ b ∈ p.elseIfs, b.1.Built)
      (hbs : ∀ b ∈ p.elseIfs, ∀ s ∈ b.2, Built s) (he : ∀ s ∈ p.elseBody, Built s)
      (h : p.build.outcome = .ok s) : Built s
  | ofForParts {p : ForParts} {s : Stmt} (hv : ∀ v ∈ p.loopVariable, v.Built)
      (hc : ∀ e ∈ p.collection, e.Built) (hb : ∀ s ∈ p.body, Built s)
      (h : p.build.outcome = .ok s) : Built s
  | ofWhileParts {p : WhileParts} {s : Stmt} (hc : ∀ e ∈ p.condition, e.Built)
      (hb : ∀ s ∈ p.body, Built s) (h : p.build.outcome = .ok s) : Built s
  | ofTryParts {p : TryParts} {s : Stmt} (hr : ∀ a ∈ p.resource, a.Built)
      (hb : ∀ s ∈ p.body, Built s) (hv : ∀ v ∈ p.catchVariable, v.Built)
      (hcb : ∀ s ∈ p.catchBody, Built s) (h : p.build.outcome = .ok s) : Built s

/-- The methods that calls make. -/
inductive Method.Built : Method → Prop where
  | ofParts {p : Method.Parts} {m : Method} (ht : ∀ t ∈ p.returnType, t.Built)
      (ha : ∀ a ∈ p.annotations, a.Built) (hts : ∀ t ∈ p.throwsTypes, t.Built)
      (hvs : ∀ v ∈ p.arguments, v.Built) (hb : ∀ s ∈ p.body, s.Built)
      (he : ∀ e ∈ p.returnExpr, e.Built) (h : p.build.outcome = .ok m) : Built m

/-- The classes that calls make. -/
inductive ClassDecl.Built : ClassDecl → Prop where
  | ofParts {p : ClassDecl.Parts} {c : ClassDecl} (ha : ∀ a ∈ p.annotations, a.Built)
      (hi : ∀ t ∈ p.implementsTypes, t.Built) (he : ∀ t ∈ p.extendsType, t.Built)
      (hs : ∀ s ∈ p.statements, s.Built) (hm : ∀ m ∈ p.methods, m.Built)
      (hc : ∀ d ∈ p.classes, Built d) (h : p.build.outcome = .ok c) : Built c

/-- The nodes of any sort that calls make. Scopes and references are made
    without a check. -/
inductive Node.Built : Node → Prop where
  | identifier {kind : NodeKind} {name : String} {i : Identifier}
      (h : (Identifier.derive kind name).outcome = .ok i) : Built (.identifier i)
  | scope (s : Scope) : Built (.scope s)
  | reference (r : Reference) : Built (.reference r)
  | type {t : JavaType} (h : t.Built) : Built (.type t)
  | annotationExpr {a : AnnotationExpr} (h : a.Built) : Built (.annotationExpr a)
  | expr {e : Expr} (h : e.Built) : Built (.expr e)
  | stmt {s : Stmt} (h : s.Built) : Built (.stmt s)
  | method {m : Method} (h : m.Built) : Built (.method m)
  | classDecl {c : ClassDecl} (h : c.Built) : Built (.classDecl c)

open Build

section Drafts

variable {α β : Type} {build : α → Build β} {P : β → Prop}

/-- What holds of every part that can be built holds of an optional one. -/
theorem forall_mem_of_buildOption (hP : ∀ {a b}, (build a).outcome = .ok b → P b)
    {part : Option α} {part' : Option β} (h : (buildOption build part).outcome = .ok part') :
    ∀ b ∈ part', P b := by
  cases part with
  | none =>
      simp only [buildOption, outcome_pure_eq_ok] at h
      subst h
      simp
  | some a =>
      simp only [buildOption, outcome_bind_eq_ok, outcome_pure_eq_ok] at h
      rcases h with ⟨b, hb, rfl⟩
      intro b' hb'
      cases hb'
      exact hP hb

/-- What holds of every part that can be built holds of all parts of a
    list. -/
theorem forall_mem_of_buildAll (hP : ∀ {a b}, (build a).outcome = .ok b → P b)
    {parts : List α} {parts' : List β} (h : (buildAll build parts).outcome = .ok parts') :
    ∀ b ∈ parts', P b := by
  induction parts generalizing parts' with
  | nil =>
      simp only [buildAll, outcome_pure_eq_ok] at h
      subst h
      simp
  | cons a rest ih =>
      simp only [buildAll, outcome_bind_eq_ok, outcome_pure_eq_ok] at h
      rcases h with ⟨b, hb, bs, hbs, rfl⟩
      rw [List.forall_mem_cons]
      exact ⟨hP hb, ih hbs⟩

end Drafts

theorem TypeDraft.built_of_build {d : TypeDraft} {t : JavaType} (h : d.build.outcome = .ok t) :
    t.Built := by
  cases d with
  | ofKind kind isArray => exact .ofKind h
  | ofException r => exact .ofException h
  | ofReference r isArray =>
      rw [build, outcome_pure_eq_ok] at h
      rw [h]
      exact .ofReference r isArray

theorem AnnotationDraft.built_of_build {d : AnnotationDraft} {a : AnnotationExpr}
    (h : d.build.outcome = .ok a) : a.Built := by
  cases d with
  | overrideMarker =>
      rw [build, outcome_pure_eq_ok] at h
      rw [h]
      exact .overrideMarker
  | deprecatedMarker =>
      rw [build, outcome_pure_eq_ok] at h
      rw [h]
      exact .deprecatedMarker
  | suppressWarnings value =>
      rw [build, outcome_pure_eq_ok] at h
      rw [h]
      exact .suppressWarnings value
  | ofType type value =>
      rw [build, outcome_bind_eq_ok] at h
      rcases h with ⟨t, ht, h⟩
      exact .ofType (TypeDraft.built_of_build ht) h

theorem VariableDraft.built_of_build {d : VariableDraft} {v : Variable}
    (h : d.build.outcome = .ok v) : v.Built := by
  rw [build, outcome_bind_eq_ok] at h
  rcases h with ⟨t, ht, h⟩
  exact .make (TypeDraft.built_of_build ht) h

theorem VariableExprDraft.built_of_build {d : VariableExprDraft} {e : VariableExpr}
    (h : d.build.outcome = .ok e) : e.Built := by
  rw [build, outcome_bind_eq_ok] at h
  rcases h with ⟨v, hv, h⟩
  exact .ofParts (forall_mem_of_buildOption VariableDraft.built_of_build hv) h

namespace ExprDraft

mutual

theorem built_of_build {e : Expr} : ∀ d : ExprDraft, d.build.outcome = .ok e → e.Built
  | literal type text, h => by
      rw [build, outcome_bind_eq_ok] at h
      rcases h with ⟨t, ht, h⟩
      exact .literal (TypeDraft.built_of_build ht) h
  | string text, h => by
      rw [build, outcome_pure_eq_ok] at h
      rw [h]
      exact .string text
  | var v, h => by
      simp only [build, outcome_bind_eq_ok, outcome_pure_eq_ok] at h
      rcases h with ⟨v', hv, rfl⟩
      exact .var (VariableExprDraft.built_of_build hv)
  | assignment target value, h => by
      simp only [build, outcome_bind_eq_ok, outcome_pure_eq_ok] at h
      rcases h with ⟨target', ht, value', hv, a, ha, rfl⟩
      -- The parts come first, in the order of the calls; then the node itself.
      exact .ofAssignmentParts (forall_mem_of_buildOption VariableExprDraft.built_of_build ht)
        (built_of_buildOpt value hv) ha
  | call receiver qualifier name returnType arguments generics, h => by
      simp only [build, outcome_bind_eq_ok] at h
      rcases h with ⟨receiver', hr, returnType', ht, arguments', ha, h⟩
      exact .ofCallParts (built_of_buildOpt receiver hr)
        (forall_mem_of_buildOption TypeDraft.built_of_build ht)
        (built_of_buildList arguments ha) h

theorem built_of_buildOpt {e : Option Expr} :
    ∀ d : Option ExprDraft, (buildOpt d).outcome = .ok e → ∀ e' ∈ e, e'.Built
  | none, h => by
      rw [buildOpt, outcome_pure_eq_ok] at h
      rw [h]
      simp
  | some d, h => by
      simp only [buildOpt, outcome_bind_eq_ok, outcome_pure_eq_ok] at h
      rcases h with ⟨e', he, rfl⟩
      intro e'' he''
      cases he''
      exact built_of_build d he

theorem built_of_buildList {es : List Expr} :
    ∀ ds : List ExprDraft, (buildList ds).outcome = .ok es → ∀ e ∈ es, e.Built
  | [], h => by
      rw [buildList, outcome_pure_eq_ok] at h
      rw [h]
      simp
  | d :: ds, h => by
      simp only [buildList, outcome_bind_eq_ok, outcome_pure_eq_ok] at h
      rcases h with ⟨e, he, es', hes, rfl⟩
      rw [List.forall_mem_cons]
      exact ⟨built_of_build d he, built_of_buildList ds hes⟩

end

end ExprDraft

theorem AssignmentDraft.built_of_build {d : AssignmentDraft} {a : Assignment}
    (h : d.build.outcome = .ok a) : a.Built := by
  simp only [build, outcome_bind_eq_ok] at h
  rcases h with ⟨target, ht, value, hv, h⟩
  exact .ofAssignmentParts (forall_mem_of_buildOption VariableExprDraft.built_of_build ht)
    (forall_mem_of_buildOption (ExprDraft.built_of_build _) hv) h

namespace StmtDraft

mutual

theorem built_of_build {s : Stmt} : ∀ d : StmtDraft, d.build.outcome = .ok s → s.Built
  | expr e, h => by
      simp only [build, outcome_bind_eq_ok, outcome_pure_eq_ok] at h
      rcases h with ⟨e', he, rfl⟩
      exact .expr (ExprDraft.built_of_build e he)
  | ifElse condition body elseIfs elseBody, h => by
      simp only [build, outcome_bind_eq_ok] at h
      rcases h with ⟨condition', hc, body', hb, elseIfs', hi, elseBody', he, h⟩
      -- A branch is a condition and a body, each with a part in the rule.
      have hbranches := built_of_buildBranches elseIfs hi
      exact .ofIfParts (forall_mem_of_buildOption (ExprDraft.built_of_build _) hc)
        (built_of_buildList body hb) (fun b hm => (hbranches b hm).1)
        (fun b hm => (hbranches b hm).2) (built_of_buildList elseBody he) h
  | forEach loopVariable collection body, h => by
      simp only [build, outcome_bind_eq_ok] at h
      rcases h with ⟨v, hv, collection', hc, body', hb, h⟩
      exact .ofForParts (forall_mem_of_buildOption VariableExprDraft.built_of_build hv)
        (forall_mem_of_buildOption (ExprDraft.built_of_build _) hc) (built_of_buildList body hb) h
  | whileLoop condition body, h => by
      simp only [build, outcome_bind_eq_ok] at h
      rcases h with ⟨condition', hc, body', hb, h⟩
      exact .ofWhileParts (forall_mem_of_buildOption (ExprDraft.built_of_build _) hc)
        (built_of_buildList body hb) h
  | tryCatch resource body catchVariable catchBody isSample, h => by
      simp only [build, outcome_bind_eq_ok] at h
      rcases h with ⟨resource', hr, body', hb, v, hv, catchBody', hcb, h⟩
      exact .ofTryParts (forall_mem_of_buildOption AssignmentDraft.built_of_build hr)
        (built_of_buildList body hb)
        (forall_mem_of_buildOption VariableExprDraft.built_of_build hv)
        (built_of_buildList catchBody hcb) h

theorem built_of_buildList {ss : List Stmt} :
    ∀ ds : List StmtDraft, (buildList ds).outcome = .ok ss → ∀ s ∈ ss, s.Built
  | [], h => by
      rw [buildList, outcome_pure_eq_ok] at h
      rw [h]
      simp
  | d :: ds, h => by
      simp only [buildList, outcome_bind_eq_ok, outcome_pure_eq_ok] at h
      rcases h with ⟨s, hs, ss', hss, rfl⟩
      rw [List.forall_mem_cons]
      exact ⟨built_of_build d hs, built_of_buildList ds hss⟩

theorem built_of_buildBranches {bs : List (Expr × List Stmt)} :
    ∀ ds : List (ExprDraft × List StmtDraft), (buildBranches ds).outcome = .ok bs →
      ∀ b ∈ bs, b.1.Built ∧ ∀ s ∈ b.2, s.Built
  | [], h => by
      rw [buildBranches, outcome_pure_eq_ok] at h
      rw [h]
      simp
  | (condition, body) :: ds, h => by
      simp only [buildBranches, outcome_bind_eq_ok, outcome_pure_eq_ok] at h
      rcases h with ⟨condition', hc, body', hb, bs', hbs, rfl⟩
      rw [List.forall_mem_cons]
      exact ⟨⟨ExprDraft.built_of_build condition hc, built_of_buildList body hb⟩,
        built_of_buildBranches ds hbs⟩

end

end StmtDraft

theorem MethodDraft.built_of_build {d : MethodDraft} {m : Method} (h : d.build.outcome = .ok m) :
    m.Built := by
  simp only [build, outcome_bind_eq_ok] at h
  rcases h with ⟨returnType, ht, annotations, ha, throwsTypes, hts, arguments, hvs, body, hb,
    returnExpr, he, h⟩
  exact .ofParts (forall_mem_of_buildOption TypeDraft.built_of_build ht)
    (forall_mem_of_buildAll AnnotationDraft.built_of_build ha)
    (forall_mem_of_buildAll TypeDraft.built_of_build hts)
    (forall_mem_of_buildAll VariableExprDraft.built_of_build hvs)
    (StmtDraft.built_of_buildList _ hb)
    (forall_mem_of_buildOption (ExprDraft.built_of_build _) he) h

namespace ClassDraft

mutual

theorem built_of_build {c : ClassDecl} : ∀ d : ClassDraft, d.build.outcome = .ok c → c.Built
  | ⟨scope, name, package, isNested, annotations, implementsTypes, extendsType, isStatic, isFinal,
      isAbstract, statements, methods, classes⟩, h => by
      simp only [build, outcome_bind_eq_ok] at h
      rcases h with ⟨annotations', ha, implementsTypes', hi, extendsType', he, statements', hs,
        methods', hm, classes', hc, h⟩
      exact .ofParts (forall_mem_of_buildAll AnnotationDraft.built_of_build ha)
        (forall_mem_of_buildAll TypeDraft.built_of_build hi)
        (forall_mem_of_buildOption TypeDraft.built_of_build he)
        (StmtDraft.built_of_buildList _ hs)
        (forall_mem_of_buildAll MethodDraft.built_of_build hm)
        (built_of_buildList classes hc) h

theorem built_of_buildList {cs : List ClassDecl} :
    ∀ ds : List ClassDraft, (buildList ds).outcome = .ok cs → ∀ c ∈ cs, c.Built
  | [], h => by
      rw [buildList, outcome_pure_eq_ok] at h
      rw [h]
      simp
  | d :: ds, h => by
      simp only [buildList, outcome_bind_eq_ok, outcome_pure_eq_ok] at h
      rcases h with ⟨c, hc, cs', hcs, rfl⟩
      rw [List.forall_mem_cons]
      exact ⟨built_of_build d hc, built_of_buildList ds hcs⟩

end

/-! ### A draft with sample code at depth, or without -/

/-- A method that decides by a parameter, by a call and by a literal, and returns
    the value of a call. -/
def isOpen : MethodDraft :=
  let boolean : TypeDraft := .ofKind .boolean false
  let flag : ExprDraft := .var ⟨some ⟨"flag", boolean⟩, false, none⟩
  { scope := some .publicScope
    returnType := some boolean
    name := "isOpen"
    annotations := []
    throwsTypes := []
    arguments := [⟨some ⟨"flag", boolean⟩, true, none⟩]
    isStatic := false
    isFinal := false
    isAbstract := false
    body :=
      [.ifElse (some flag) [.expr (.call none none "open" none [] [])]
        [(.call none (some "Books") "isEmpty" (some boolean) [] [], [])]
        [.whileLoop (some (.literal boolean "false")) []]]
    returnExpr := some (.call none none "ask" (some boolean) [flag] [])
    isOverride := false }

/-- A method that returns a text. -/
def title : MethodDraft :=
  { scope := some .publicScope
    returnType := some (.ofReference (.javaLang "String") false)
    name := "title"
    annotations := []
    throwsTypes := []
    arguments := []
    isStatic := true
    isFinal := true
    isAbstract := false
    body := []
    returnExpr := some (.string "untitled")
    isOverride := false }

/-- A nested class with a method that tries something in a loop; the try statement is
    sample code or not. Two methods with values follow. -/
def reader (isSample : Bool) : ClassDraft :=
  let failure : TypeDraft := .ofException (.topLevel "java.io" "IOException")
  let book : TypeDraft := .ofReference (.topLevel "org.book" "Book") false
  let open_ : StmtDraft := .expr (.call none (some "Books") "open" none [] [])
  { scope := some .privateScope
    name := "Reader"
    package := none
    isNested := true
    annotations := []
    implementsTypes := []
    extendsType := none
    isStatic := true
    isFinal := true
    isAbstract := false
    statements := []
    methods :=
      [{ scope := some .publicScope
         returnType := some (.ofKind .void false)
         name := "read"
         annotations := []
         throwsTypes := [failure]
         arguments :=
           [⟨some ⟨"books", .ofReference (.topLevel "org.book" "Books") false⟩, true, none⟩]
         isStatic := false
         isFinal := false
         isAbstract := false
         body :=
           [.forEach (some ⟨some ⟨"book", book⟩, true, none⟩)
             (some (.call none (some "Books") "all" (some book) [] []))
             [.tryCatch none [open_] (some ⟨some ⟨"e", failure⟩, true, none⟩) [] isSample]]
         returnExpr := none
         isOverride := true },
        isOpen, title]
    classes := [] }

/-- A class with a variable and with the nested class `reader`. -/
def shelf (isSample : Bool) : ClassDraft :=
  { scope := some .publicScope
    name := "Shelf"
    package := some "org.shelf"
    isNested := false
    annotations := [.deprecatedMarker]
    implementsTypes :=
      [.ofReference ⟨"java.util", [], "List", [.topLevel "org.book" "Book"], none⟩ false]
    extendsType := none
    isStatic := false
    isFinal := false
    isAbstract := false
    statements :=
      [.expr (.var ⟨some ⟨"first", .ofReference ⟨"java.util", ["Map"], "Entry", [], none⟩ false⟩,
        true, some .privateScope⟩)]
    methods := []
    classes := [reader isSample] }

end ClassDraft

end JavaSource
