import JavaSource.ClassDecl

/-!
# Drafts

A draft describes a node and everything below it, unchecked. Building a
draft builds its parts first, in the order the draft lists them, and then
the node itself; the first refusal anywhere ends the whole.

The functions of the other modules build one node from parts that are built
already. A draft is what a caller has before any of them was called, so the
statements about every tree that can come into being are statements about
drafts.

## Main definitions

* `TypeDraft`, `AnnotationDraft`, `VariableDraft`, `VariableExprDraft`,
  `ExprDraft`, `AssignmentDraft`, `StmtDraft`, `MethodDraft`, `ClassDraft`:
  Descriptions of the nodes.
* `build` in the namespace of each: Building what is described.
-/

namespace JavaSource

/-- Build an optional part. -/
def buildOption {α β : Type} (build : α → Build β) : Option α → Build (Option β)
  | none => pure none
  | some a => do
    let b ← build a
    pure (some b)

/-- Build the parts of a list in order. -/
def buildAll {α β : Type} (build : α → Build β) : List α → Build (List β)
  | [] => pure []
  | a :: rest => do
    let b ← build a
    let bs ← buildAll build rest
    pure (b :: bs)

/-- A description of a type. -/
inductive TypeDraft where
  | ofKind (kind : TypeKind) (isArray : Bool)
  | ofException (r : Reference)
  | ofReference (r : Reference) (isArray : Bool)

/-- Build a type. -/
def TypeDraft.build : TypeDraft → Build JavaType
  | ofKind kind isArray => JavaType.ofKind kind isArray
  | ofException r => JavaType.ofException r
  | ofReference r isArray => pure (.reference r isArray)

/-- A description of an annotation. -/
inductive AnnotationDraft where
  | overrideMarker
  | deprecatedMarker
  | suppressWarnings (value : String)
  | ofType (type : TypeDraft) (value : Option String)

/-- Build an annotation. -/
def AnnotationDraft.build : AnnotationDraft → Build AnnotationExpr
  | overrideMarker => pure .overrideMarker
  | deprecatedMarker => pure .deprecatedMarker
  | suppressWarnings value => pure (.suppressWarnings value)
  | ofType type value => do
    let type ← type.build
    AnnotationExpr.ofType type value

/-- A description of a variable. -/
structure VariableDraft where
  /-- The name of the variable. -/
  name : String
  /-- The type of its values. -/
  type : TypeDraft

/-- Build a variable. -/
def VariableDraft.build (d : VariableDraft) : Build Variable := do
  let type ← d.type.build
  Variable.make d.name type

/-- A description of an occurrence of a variable. -/
structure VariableExprDraft where
  /-- The variable. -/
  var : Option VariableDraft
  /-- Whether it is declared here. -/
  isDeclaration : Bool
  /-- The scope it is declared with. -/
  scope : Option Scope

/-- Build an occurrence of a variable. -/
def VariableExprDraft.build (d : VariableExprDraft) : Build VariableExpr := do
  let var ← buildOption VariableDraft.build d.var
  VariableExpr.Parts.build ⟨var, d.isDeclaration, d.scope⟩

/-- A description of an expression. -/
inductive ExprDraft where
  | literal (type : TypeDraft) (text : String)
  | string (text : String)
  | var (v : VariableExprDraft)
  | assignment (target : Option VariableExprDraft) (value : Option ExprDraft)
  | call (receiver : Option ExprDraft) (qualifier : Option String) (name : String)
      (returnType : Option TypeDraft) (arguments : List ExprDraft) (generics : List Reference)

namespace ExprDraft

mutual

/-- Build an expression. -/
def build : ExprDraft → Build Expr
  | literal type text => do
    let type ← type.build
    Expr.makeLiteral type text
  | string text => pure (.string text)
  | var v => do
    let v ← v.build
    pure (.var v)
  | assignment target value => do
    let target ← buildOption VariableExprDraft.build target
    let value ← buildOpt value
    let a ← Assignment.Parts.build ⟨target, value⟩
    pure a.toExpr
  | call receiver qualifier name returnType arguments generics => do
    let receiver ← buildOpt receiver
    let returnType ← buildOption TypeDraft.build returnType
    let arguments ← buildList arguments
    Expr.CallParts.build ⟨receiver, qualifier, name, returnType, arguments, generics⟩

/-- Build an optional expression. -/
def buildOpt : Option ExprDraft → Build (Option Expr)
  | none => pure none
  | some d => do
    let e ← build d
    pure (some e)

/-- Build the expressions of a list in order. -/
def buildList : List ExprDraft → Build (List Expr)
  | [] => pure []
  | d :: rest => do
    let e ← build d
    let es ← buildList rest
    pure (e :: es)

end

end ExprDraft

/-- A description of an assignment on its own. -/
structure AssignmentDraft where
  /-- The variable assigned to. -/
  target : Option VariableExprDraft
  /-- The value assigned. -/
  value : Option ExprDraft

/-- Build an assignment. -/
def AssignmentDraft.build (d : AssignmentDraft) : Build Assignment := do
  let target ← buildOption VariableExprDraft.build d.target
  let value ← buildOption ExprDraft.build d.value
  Assignment.Parts.build ⟨target, value⟩

/-- A description of a statement. -/
inductive StmtDraft where
  | expr (e : ExprDraft)
  | ifElse (condition : Option ExprDraft) (body : List StmtDraft)
      (elseIfs : List (ExprDraft × List StmtDraft)) (elseBody : List StmtDraft)
  | forEach (loopVariable : Option VariableExprDraft) (collection : Option ExprDraft)
      (body : List StmtDraft)
  | whileLoop (condition : Option ExprDraft) (body : List StmtDraft)
  | tryCatch (resource : Option AssignmentDraft) (body : List StmtDraft)
      (catchVariable : Option VariableExprDraft) (catchBody : List StmtDraft) (isSample : Bool)

namespace StmtDraft

mutual

/-- Build a statement. -/
def build : StmtDraft → Build Stmt
  | expr e => do
    let e ← e.build
    pure (.expr e)
  | ifElse condition body elseIfs elseBody => do
    let condition ← buildOption ExprDraft.build condition
    let body ← buildList body
    let elseIfs ← buildBranches elseIfs
    let elseBody ← buildList elseBody
    IfParts.build ⟨condition, body, elseIfs, elseBody⟩
  | forEach loopVariable collection body => do
    let loopVariable ← buildOption VariableExprDraft.build loopVariable
    let collection ← buildOption ExprDraft.build collection
    let body ← buildList body
    ForParts.build ⟨loopVariable, collection, body⟩
  | whileLoop condition body => do
    let condition ← buildOption ExprDraft.build condition
    let body ← buildList body
    WhileParts.build ⟨condition, body⟩
  | tryCatch resource body catchVariable catchBody isSample => do
    let resource ← buildOption AssignmentDraft.build resource
    let body ← buildList body
    let catchVariable ← buildOption VariableExprDraft.build catchVariable
    let catchBody ← buildList catchBody
    TryParts.build ⟨resource, body, catchVariable, catchBody, isSample⟩

/-- Build the statements of a body in order. -/
def buildList : List StmtDraft → Build (List Stmt)
  | [] => pure []
  | d :: rest => do
    let s ← build d
    let ss ← buildList rest
    pure (s :: ss)

/-- Build the further branches of a choice in order. -/
def buildBranches : List (ExprDraft × List StmtDraft) → Build (List (Expr × List Stmt))
  | [] => pure []
  | (condition, body) :: rest => do
    let condition ← condition.build
    let body ← buildList body
    let branches ← buildBranches rest
    pure ((condition, body) :: branches)

end

end StmtDraft

/-- A description of a method. -/
structure MethodDraft where
  /-- Where the method can be seen. -/
  scope : Option Scope
  /-- The type of the value returned. -/
  returnType : Option TypeDraft
  /-- The name of the method. -/
  name : String
  /-- What is said about the method. -/
  annotations : List AnnotationDraft
  /-- The exceptions the method declares. -/
  throwsTypes : List TypeDraft
  /-- The parameters. -/
  arguments : List VariableExprDraft
  /-- Whether the method belongs to the class and not to its objects. -/
  isStatic : Bool
  /-- Whether the method cannot be overridden. -/
  isFinal : Bool
  /-- Whether the method must be overridden. -/
  isAbstract : Bool
  /-- The body, the final return apart. -/
  body : List StmtDraft
  /-- The value returned at the end. -/
  returnExpr : Option ExprDraft
  /-- Whether the method overrides another. -/
  isOverride : Bool

/-- Build a method. -/
def MethodDraft.build (d : MethodDraft) : Build Method := do
  let returnType ← buildOption TypeDraft.build d.returnType
  let annotations ← buildAll AnnotationDraft.build d.annotations
  let throwsTypes ← buildAll TypeDraft.build d.throwsTypes
  let arguments ← buildAll VariableExprDraft.build d.arguments
  let body ← StmtDraft.buildList d.body
  let returnExpr ← buildOption ExprDraft.build d.returnExpr
  Method.Parts.build
    { scope := d.scope
      returnType
      name := d.name
      annotations, throwsTypes, arguments
      isStatic := d.isStatic
      isFinal := d.isFinal
      isAbstract := d.isAbstract
      body, returnExpr
      isOverride := d.isOverride }

/-- A description of a class. -/
structure ClassDraft where
  /-- Where the class can be seen. -/
  scope : Option Scope
  /-- The name of the class. -/
  name : String
  /-- Its package. -/
  package : Option String
  /-- Whether another class encloses it. -/
  isNested : Bool
  /-- What is said about the class. -/
  annotations : List AnnotationDraft
  /-- The interfaces it implements. -/
  implementsTypes : List TypeDraft
  /-- The class it extends. -/
  extendsType : Option TypeDraft
  /-- Whether its objects are independent of those of the enclosing class. -/
  isStatic : Bool
  /-- Whether the class cannot be extended. -/
  isFinal : Bool
  /-- Whether the class must be extended. -/
  isAbstract : Bool
  /-- The declarations and assignments of its variables. -/
  statements : List StmtDraft
  /-- Its methods. -/
  methods : List MethodDraft
  /-- The classes it encloses. -/
  classes : List ClassDraft

namespace ClassDraft

mutual

/-- Build a class. -/
def build : ClassDraft → Build ClassDecl
  | ⟨scope, name, package, isNested, annotations, implementsTypes, extendsType, isStatic, isFinal,
      isAbstract, statements, methods, classes⟩ => do
    let annotations ← buildAll AnnotationDraft.build annotations
    let implementsTypes ← buildAll TypeDraft.build implementsTypes
    let extendsType ← buildOption TypeDraft.build extendsType
    let statements ← StmtDraft.buildList statements
    let methods ← buildAll MethodDraft.build methods
    let classes ← buildList classes
    ClassDecl.Parts.build
      { scope, name, package, isNested, annotations, implementsTypes, extendsType, isStatic,
        isFinal, isAbstract, statements, methods, classes }

/-- Build the classes of a list in order. -/
def buildList : List ClassDraft → Build (List ClassDecl)
  | [] => pure []
  | d :: rest => do
    let c ← build d
    let cs ← buildList rest
    pure (c :: cs)

end

end ClassDraft

end JavaSource
