import JavaSource.Outline

/-!
# Visitors

A pass over a tree is a visitor: it has one method for each kind of node. A
node accepts a visitor by calling the method for its own kind, and so finds
out what the pass does there. The method is handed the walk over the parts
of the node. It may run the walk, leave it out and so prune the tree, or do
something before and after it; a method that the pass does not override just
runs it.

A walk accepts the visitor at every part of the node, in a fixed order. An
identifier and a scope have no parts, and the walk over them does nothing.

## Main definitions

* `Visitor`: The methods of a pass.
* `Visitor.uniform`: A pass that does the same at nodes of all kinds.
* `Visitor.dispatch`: The method for the kind of a node.
* `Visitor.walkReference`, `Visitor.walkType`, `Visitor.walkAnnotationExpr`,
  `Visitor.walkVariableExpr`, `Visitor.walkExpr`, `Visitor.walkStmt`,
  `Visitor.walkMethod`, `Visitor.walkClass`: The walks over the parts.
* `Visitor.walk`, `Visitor.accept`: The walk over the parts of any node, and
  accepting a visitor at it.
-/

namespace JavaSource

/-- What a pass does at a node, for each kind of node. The second argument of
    a method is the walk over the parts of the node. -/
structure Visitor (m : Type → Type) where
  onIdentifier : Identifier → m Unit → m Unit := fun _ walk => walk
  onScope : Scope → m Unit → m Unit := fun _ walk => walk
  onReference : Reference → m Unit → m Unit := fun _ walk => walk
  onType : JavaType → m Unit → m Unit := fun _ walk => walk
  onAnnotationExpr : AnnotationExpr → m Unit → m Unit := fun _ walk => walk
  onValue : Expr → m Unit → m Unit := fun _ walk => walk
  onVariableExpr : VariableExpr → m Unit → m Unit := fun _ walk => walk
  onAssignment : Assignment → m Unit → m Unit := fun _ walk => walk
  onCall : Expr → m Unit → m Unit := fun _ walk => walk
  onExprStmt : Stmt → m Unit → m Unit := fun _ walk => walk
  onIf : Stmt → m Unit → m Unit := fun _ walk => walk
  onFor : Stmt → m Unit → m Unit := fun _ walk => walk
  onWhile : Stmt → m Unit → m Unit := fun _ walk => walk
  onTryCatch : Stmt → m Unit → m Unit := fun _ walk => walk
  onMethod : Method → m Unit → m Unit := fun _ walk => walk
  onClass : ClassDecl → m Unit → m Unit := fun _ walk => walk

namespace Visitor

/-- The visitor that does the same at nodes of all kinds. -/
def uniform {m : Type → Type} (visit : Node → m Unit → m Unit) : Visitor m where
  onIdentifier i := visit (.identifier i)
  onScope s := visit (.scope s)
  onReference r := visit (.reference r)
  onType t := visit (.type t)
  onAnnotationExpr a := visit (.annotationExpr a)
  onValue e := visit (.expr e)
  onVariableExpr x := visit (.expr (.var x))
  onAssignment a := visit (.expr a.toExpr)
  onCall e := visit (.expr e)
  onExprStmt s := visit (.stmt s)
  onIf s := visit (.stmt s)
  onFor s := visit (.stmt s)
  onWhile s := visit (.stmt s)
  onTryCatch s := visit (.stmt s)
  onMethod f := visit (.method f)
  onClass c := visit (.classDecl c)

/-! ### Dispatch -/

section Dispatch

variable {m : Type → Type} (v : Visitor m)

/-- The method for the kind of an expression. -/
def dispatchExpr (e : Expr) : m Unit → m Unit :=
  match e with
  | .literal _ _ | .string _ => v.onValue e
  | .var x => v.onVariableExpr x
  | .assignment target value => v.onAssignment ⟨target, value⟩
  | .call _ _ _ _ _ _ => v.onCall e

/-- The method for the kind of a statement. -/
def dispatchStmt (s : Stmt) : m Unit → m Unit :=
  match s with
  | .expr _ => v.onExprStmt s
  | .ifElse _ _ _ _ => v.onIf s
  | .forEach _ _ _ => v.onFor s
  | .whileLoop _ _ => v.onWhile s
  | .tryCatch _ _ _ _ _ => v.onTryCatch s

/-- The method for the kind of a node. -/
def dispatch : Node → m Unit → m Unit
  | .identifier i => v.onIdentifier i
  | .scope s => v.onScope s
  | .reference r => v.onReference r
  | .type t => v.onType t
  | .annotationExpr a => v.onAnnotationExpr a
  | .expr e => v.dispatchExpr e
  | .stmt s => v.dispatchStmt s
  | .method f => v.onMethod f
  | .classDecl c => v.onClass c

end Dispatch

/-! ### Walks -/

section Walks

variable {m : Type → Type} [Monad m]

/-- Accept the visitor at an identifier, which has no parts. -/
def acceptIdentifier (v : Visitor m) (i : Identifier) : m Unit :=
  v.onIdentifier i (pure ())

/-- Accept the visitor at a scope, which has no parts. -/
def acceptScope (v : Visitor m) (s : Scope) : m Unit :=
  v.onScope s (pure ())

mutual

/-- Walk over the generic arguments of a reference. -/
def walkReference (v : Visitor m) : Reference → m Unit
  | ⟨_, _, _, generics, _⟩ => walkReferences v generics

/-- Accept the visitor at several references. -/
def walkReferences (v : Visitor m) : List Reference → m Unit
  | [] => pure ()
  | r :: rs => do
    v.onReference r (walkReference v r)
    walkReferences v rs

end

/-- Accept the visitor at a reference. -/
def acceptReference (v : Visitor m) (r : Reference) : m Unit :=
  v.onReference r (v.walkReference r)

/-- Walk over a type: to the class it is made of, if it is made of one. -/
def walkType (v : Visitor m) (t : JavaType) : m Unit :=
  match t.reference? with
  | some r => v.acceptReference r
  | none => pure ()

/-- Accept the visitor at a type. -/
def acceptType (v : Visitor m) (t : JavaType) : m Unit :=
  v.onType t (v.walkType t)

/-- Walk over an annotation. -/
def walkAnnotationExpr (v : Visitor m) (a : AnnotationExpr) : m Unit :=
  v.acceptType a.type

/-- Accept the visitor at an annotation. -/
def acceptAnnotationExpr (v : Visitor m) (a : AnnotationExpr) : m Unit :=
  v.onAnnotationExpr a (v.walkAnnotationExpr a)

/-- Walk over an occurrence of a variable. -/
def walkVariableExpr (v : Visitor m) (x : VariableExpr) : m Unit := do
  v.acceptType x.var.type
  v.acceptIdentifier x.var.identifier
  v.acceptScope x.scope

/-- Accept the visitor at an occurrence of a variable. -/
def acceptVariableExpr (v : Visitor m) (x : VariableExpr) : m Unit :=
  v.onVariableExpr x (v.walkVariableExpr x)

mutual

/-- Walk over an expression, by its kind. -/
def walkExpr (v : Visitor m) : Expr → m Unit
  | .literal type _ => v.acceptType type
  | .string _ => v.acceptType .string
  | .var x => v.walkVariableExpr x
  | .assignment target value => do
    v.acceptVariableExpr target
    v.dispatchExpr value (walkExpr v value)
  | .call receiver _ method returnType arguments generics => do
    v.acceptType returnType
    walkExprOption v receiver
    v.acceptIdentifier method
    v.walkReferences generics
    walkExprs v arguments

/-- Accept the visitor at an optional expression. -/
def walkExprOption (v : Visitor m) : Option Expr → m Unit
  | none => pure ()
  | some e => v.dispatchExpr e (walkExpr v e)

/-- Accept the visitor at several expressions. -/
def walkExprs (v : Visitor m) : List Expr → m Unit
  | [] => pure ()
  | e :: es => do
    v.dispatchExpr e (walkExpr v e)
    walkExprs v es

end

/-- Accept the visitor at an expression. -/
def acceptExpr (v : Visitor m) (e : Expr) : m Unit :=
  v.dispatchExpr e (v.walkExpr e)

/-- Accept the visitor at an assignment on its own. -/
def acceptAssignment (v : Visitor m) (a : Assignment) : m Unit :=
  v.acceptExpr a.toExpr

mutual

/-- Walk over a statement, by its kind. -/
def walkStmt (v : Visitor m) : Stmt → m Unit
  | .expr e => v.acceptExpr e
  | .ifElse condition body elseIfs elseBody => do
    v.acceptExpr condition
    walkStmts v body
    walkBranches v elseIfs
    walkStmts v elseBody
  | .forEach loopVariable collection body => do
    v.acceptVariableExpr loopVariable
    v.acceptExpr collection
    walkStmts v body
  | .whileLoop condition body => do
    v.acceptExpr condition
    walkStmts v body
  | .tryCatch resource body catchVariable catchBody _ => do
    resource.toList.forM v.acceptAssignment
    walkStmts v body
    catchVariable.toList.forM v.acceptVariableExpr
    walkStmts v catchBody

/-- Accept the visitor at the statements of a body. -/
def walkStmts (v : Visitor m) : List Stmt → m Unit
  | [] => pure ()
  | s :: ss => do
    v.dispatchStmt s (walkStmt v s)
    walkStmts v ss

/-- Accept the visitor at the further branches of a choice: at each condition
    before its body. -/
def walkBranches (v : Visitor m) : List (Expr × List Stmt) → m Unit
  | [] => pure ()
  | (condition, body) :: rest => do
    v.acceptExpr condition
    walkStmts v body
    walkBranches v rest

end

/-- Accept the visitor at a statement. -/
def acceptStmt (v : Visitor m) (s : Stmt) : m Unit :=
  v.dispatchStmt s (v.walkStmt s)

/-- Walk over a method. -/
def walkMethod (v : Visitor m) (f : Method) : m Unit := do
  v.acceptScope f.scope
  v.acceptType f.returnType
  v.acceptIdentifier f.identifier
  f.annotations.forM v.acceptAnnotationExpr
  f.throwsTypes.forM v.acceptType
  f.arguments.forM v.acceptVariableExpr
  v.walkStmts f.body
  v.walkExprOption f.returnExpr

/-- Accept the visitor at a method. -/
def acceptMethod (v : Visitor m) (f : Method) : m Unit :=
  v.onMethod f (v.walkMethod f)

mutual

/-- Walk over a class. -/
def walkClass (v : Visitor m) : ClassDecl → m Unit
  | ⟨scope, identifier, _, _, annotations, implementsTypes, extendsType, _, _, _, statements,
      methods, classes⟩ => do
    v.acceptScope scope
    v.acceptIdentifier identifier
    annotations.forM v.acceptAnnotationExpr
    implementsTypes.forM v.acceptType
    extendsType.toList.forM v.acceptType
    v.walkStmts statements
    methods.forM v.acceptMethod
    walkClasses v classes

/-- Accept the visitor at several classes. -/
def walkClasses (v : Visitor m) : List ClassDecl → m Unit
  | [] => pure ()
  | c :: cs => do
    v.onClass c (walkClass v c)
    walkClasses v cs

end

/-- Accept the visitor at a class. -/
def acceptClass (v : Visitor m) (c : ClassDecl) : m Unit :=
  v.onClass c (v.walkClass c)

/-- Walk over the parts of a node of any kind. -/
def walk (v : Visitor m) : Node → m Unit
  | .identifier _ | .scope _ => pure ()
  | .reference r => v.walkReference r
  | .type t => v.walkType t
  | .annotationExpr a => v.walkAnnotationExpr a
  | .expr e => v.walkExpr e
  | .stmt s => v.walkStmt s
  | .method f => v.walkMethod f
  | .classDecl c => v.walkClass c

/-- Accept the visitor at a node of any kind. -/
def accept (v : Visitor m) (n : Node) : m Unit :=
  v.dispatch n (v.walk n)

end Walks

end Visitor

end JavaSource
