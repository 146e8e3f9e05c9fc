import JavaSource.Stmt

/-!
# Methods

A method of a class. Its annotations and the exceptions it throws are sets:
each is listed once, where it first stood, and two methods that list them in
another order are the same. A method that overrides another is marked by an
annotation, which stands last.

## Main definitions

* `sameMembers`: Sameness of lists that stand for sets.
* `Method`: A method.
* `Method.Parts`, `Method.Parts.build`: The checked way to a method.
-/

namespace JavaSource

/-- Whether two lists have the same members. -/
def sameMembers {α : Type} [BEq α] (xs ys : List α) : Bool :=
  xs.all (fun x => ys.contains x) && ys.all (fun y => xs.contains y)

/-- A method of a class. -/
structure Method where
  /-- Where the method can be seen. -/
  scope : Scope
  /-- The type of the value returned. -/
  returnType : JavaType
  /-- The name of the method. -/
  identifier : Identifier
  /-- What is said about the method. -/
  annotations : List AnnotationExpr
  /-- The exceptions the method declares. -/
  throwsTypes : List JavaType
  /-- The parameters. -/
  arguments : List VariableExpr
  /-- Whether the method belongs to the class and not to its objects. -/
  isStatic : Bool
  /-- Whether the method cannot be overridden. -/
  isFinal : Bool
  /-- Whether the method must be overridden. -/
  isAbstract : Bool
  /-- The body, the final return apart. -/
  body : List Stmt
  /-- The value returned at the end. -/
  returnExpr : Option Expr
  /-- Whether the method overrides another. -/
  isOverride : Bool

namespace Method

/-- Whether two methods are the same. -/
def beq (m n : Method) : Bool :=
  m.scope == n.scope && m.returnType == n.returnType && m.identifier == n.identifier
    && sameMembers m.annotations n.annotations && sameMembers m.throwsTypes n.throwsTypes
    && m.arguments == n.arguments && m.isStatic == n.isStatic && m.isFinal == n.isFinal
    && m.isAbstract == n.isAbstract && m.body == n.body && m.returnExpr == n.returnExpr
    && m.isOverride == n.isOverride

instance : BEq Method where
  beq := beq

/-- The parts of a method. -/
structure Parts where
  /-- Where the method can be seen. -/
  scope : Option Scope
  /-- The type of the value returned. -/
  returnType : Option JavaType
  /-- The name of the method. -/
  name : String
  /-- What is said about the method. -/
  annotations : List AnnotationExpr
  /-- The exceptions the method declares. -/
  throwsTypes : List JavaType
  /-- The parameters. -/
  arguments : List VariableExpr
  /-- Whether the method belongs to the class and not to its objects. -/
  isStatic : Bool
  /-- Whether the method cannot be overridden. -/
  isFinal : Bool
  /-- Whether the method must be overridden. -/
  isAbstract : Bool
  /-- The body, the final return apart. -/
  body : List Stmt
  /-- The value returned at the end. -/
  returnExpr : Option Expr
  /-- Whether the method overrides another. -/
  isOverride : Bool

namespace Parts

/-- The annotations, each once. The mark of an overriding method is moved to
    the end, or put there. -/
def annotationSet (p : Parts) : List AnnotationExpr :=
  let supplied := p.annotations.eraseDups
  if p.isOverride then
    supplied.filter (fun a => !(a == .overrideMarker)) ++ [.overrideMarker]
  else
    supplied

/-- The declared exceptions, each once. -/
def throwsSet (p : Parts) : List JavaType :=
  p.throwsTypes.eraseDups

/-- Refuse a method whose value is missing or of another type. -/
def checkReturn (returnType : JavaType) (returnExpr : Option Expr) : Build Unit :=
  match returnExpr with
  | none => rejectIf (returnType != .void) .method .returnMissing
  | some e => rejectIf (e.type != returnType) .method .returnMismatch

/-- Refuse a method with a parameter that is not declared. -/
def checkArguments : List VariableExpr → Build Unit
  | [] => pure ()
  | v :: rest => do
    rejectIf (!v.isDeclaration) .method (.argumentNotDeclared v.name)
    checkArguments rest

/-- Refuse a method that declares to throw what is no exception, or what need
    not be declared. -/
def checkThrows : List JavaType → Build Unit
  | [] => pure ()
  | .reference r _ :: rest => do
    rejectIf (!r.isException) .method (.thrownNotException r.fullName)
    rejectIf r.isUnchecked .method (.thrownUnchecked r.name)
    checkThrows rest
  | _ :: _ => rejectFault .method .thrownNotReference

/-- A method. -/
def build (p : Parts) : Build Method := do
  let identifier ← Identifier.derive .method p.name
  let scope ← required .method .scope p.scope
  let returnType ← required .method .returnType p.returnType
  rejectIf (scope == .localScope) .method .localMethod
  rejectIf (p.isAbstract && (p.isFinal || p.isStatic || scope == .privateScope)) .method
    .abstractNotOverridable
  checkReturn returnType p.returnExpr
  checkArguments p.arguments
  checkThrows p.throwsSet
  pure
    { scope, returnType, identifier
      annotations := p.annotationSet
      throwsTypes := p.throwsSet
      arguments := p.arguments
      isStatic := p.isStatic
      isFinal := p.isFinal
      isAbstract := p.isAbstract
      body := p.body
      returnExpr := p.returnExpr
      isOverride := p.isOverride }

end Parts

end Method

end JavaSource
