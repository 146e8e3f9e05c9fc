import JavaSource.ClassDecl

/-!
# Outlines

The outline of a node is the tree of all nodes a walk over it meets, each
with the nodes directly below it in the order of the walk. Expressions,
statements, methods and classes are mutually nested in many ways; their
outlines all have one shape, so whatever a walk does is defined once, on
outlines.

A part belongs to the outline if a walk enters it. What is known about the
superclass of a reference is not part of the source, and is left out.

## Main definitions

* `Node`: A node of any kind.
* `Outline`: A node with the outlines of the nodes below it.
* `Outline.ofReference`, `Outline.ofType`, `Outline.ofAnnotationExpr`,
  `Outline.ofVariableExpr`, `Outline.ofExpr`, `Outline.ofStmt`,
  `Outline.ofMethod`, `Outline.ofClass`: The outlines of the nodes.
-/

namespace JavaSource

/-- A node of a source tree. -/
inductive Node where
  | identifier (i : Identifier)
  | scope (s : Scope)
  | reference (r : Reference)
  | type (t : JavaType)
  | annotationExpr (a : AnnotationExpr)
  | expr (e : Expr)
  | stmt (s : Stmt)
  | method (m : Method)
  | classDecl (c : ClassDecl)

/-- The kind of a node. -/
def Node.kind : Node → NodeKind
  | identifier _ => .identifier
  | scope _ => .scope
  | reference _ => .reference
  | type _ => .type
  | annotationExpr _ => .annotationExpr
  | expr e => e.nodeKind
  | stmt s => s.nodeKind
  | method _ => .method
  | classDecl _ => .classDecl

/-- A node with the outlines of the nodes directly below it. -/
inductive Outline where
  | node (label : Node) (children : List Outline)

namespace Outline

/-- The node at the root. -/
def label : Outline → Node
  | node label _ => label

/-- The outlines below the root. -/
def children : Outline → List Outline
  | node _ children => children

/-- The outline of an identifier, which has no parts. -/
def ofIdentifier (i : Identifier) : Outline :=
  node (.identifier i) []

/-- The outline of a scope, which has no parts. -/
def ofScope (s : Scope) : Outline :=
  node (.scope s) []

mutual

/-- The outline of a reference: its generic arguments are below it. -/
def ofReference : Reference → Outline
  | ⟨package, enclosing, name, generics, declaredSuper⟩ =>
    node (.reference ⟨package, enclosing, name, generics, declaredSuper⟩) (ofReferences generics)

/-- The outlines of several references. -/
def ofReferences : List Reference → List Outline
  | [] => []
  | r :: rs => ofReference r :: ofReferences rs

end

/-- The outline of a type: the class it is made of is below it. -/
def ofType (t : JavaType) : Outline :=
  node (.type t) (t.reference?.toList.map ofReference)

/-- The outline of an annotation. -/
def ofAnnotationExpr (a : AnnotationExpr) : Outline :=
  node (.annotationExpr a) [ofType a.type]

/-- The outline of an occurrence of a variable. -/
def ofVariableExpr (v : VariableExpr) : Outline :=
  node (.expr (.var v)) [ofType v.var.type, ofIdentifier v.var.identifier, ofScope v.scope]

mutual

/-- The outline of an expression. -/
def ofExpr : Expr → Outline
  | .literal type text => node (.expr (.literal type text)) [ofType type]
  | .string text => node (.expr (.string text)) [ofType .string]
  | .var v => ofVariableExpr v
  | .assignment target value =>
    node (.expr (.assignment target value)) [ofVariableExpr target, ofExpr value]
  | .call receiver qualifier method returnType arguments generics =>
    node (.expr (.call receiver qualifier method returnType arguments generics))
      (ofType returnType :: ofExprOption receiver ++ ofIdentifier method
        :: ofReferences generics ++ ofExprs arguments)

/-- The outline of an optional expression. -/
def ofExprOption : Option Expr → List Outline
  | none => []
  | some e => [ofExpr e]

/-- The outlines of several expressions. -/
def ofExprs : List Expr → List Outline
  | [] => []
  | e :: es => ofExpr e :: ofExprs es

end

/-- The outline of an assignment on its own. -/
def ofAssignment (a : Assignment) : Outline :=
  ofExpr a.toExpr

mutual

/-- The outline of a statement. -/
def ofStmt : Stmt → Outline
  | .expr e => node (.stmt (.expr e)) [ofExpr e]
  | .ifElse condition body elseIfs elseBody =>
    node (.stmt (.ifElse condition body elseIfs elseBody))
      (ofExpr condition :: ofStmts body ++ ofBranches elseIfs ++ ofStmts elseBody)
  | .forEach loopVariable collection body =>
    node (.stmt (.forEach loopVariable collection body))
      (ofVariableExpr loopVariable :: ofExpr collection :: ofStmts body)
  | .whileLoop condition body =>
    node (.stmt (.whileLoop condition body)) (ofExpr condition :: ofStmts body)
  | .tryCatch resource body catchVariable catchBody isSample =>
    node (.stmt (.tryCatch resource body catchVariable catchBody isSample))
      (resource.toList.map ofAssignment ++ ofStmts body
        ++ catchVariable.toList.map ofVariableExpr ++ ofStmts catchBody)

/-- The outlines of the statements of a body. -/
def ofStmts : List Stmt → List Outline
  | [] => []
  | s :: ss => ofStmt s :: ofStmts ss

/-- The outlines of the further branches of a choice: each condition before
    its body. -/
def ofBranches : List (Expr × List Stmt) → List Outline
  | [] => []
  | (condition, body) :: rest => ofExpr condition :: ofStmts body ++ ofBranches rest

end

/-- The outline of a method. -/
def ofMethod (m : Method) : Outline :=
  node (.method m)
    (ofScope m.scope :: ofType m.returnType :: ofIdentifier m.identifier
      :: m.annotations.map ofAnnotationExpr ++ m.throwsTypes.map ofType
      ++ m.arguments.map ofVariableExpr ++ ofStmts m.body ++ ofExprOption m.returnExpr)

mutual

/-- The outline of a class. -/
def ofClass : ClassDecl → Outline
  | ⟨scope, identifier, package, isNested, annotations, implementsTypes, extendsType, isStatic,
      isFinal, isAbstract, statements, methods, classes⟩ =>
    node
      (.classDecl ⟨scope, identifier, package, isNested, annotations, implementsTypes,
        extendsType, isStatic, isFinal, isAbstract, statements, methods, classes⟩)
      (ofScope scope :: ofIdentifier identifier :: annotations.map ofAnnotationExpr
        ++ implementsTypes.map ofType ++ extendsType.toList.map ofType ++ ofStmts statements
        ++ methods.map ofMethod ++ ofClasses classes)

/-- The outlines of several classes. -/
def ofClasses : List ClassDecl → List Outline
  | [] => []
  | c :: cs => ofClass c :: ofClasses cs

end

end Outline

end JavaSource
