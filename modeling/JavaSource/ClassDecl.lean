import JavaSource.Method

/-!
# Classes

A class with its variables, methods and the classes nested in it. A class
that no other encloses is a source file of its own and needs a package. As
with methods, annotations and implemented types are sets.

## Main definitions

* `ClassDecl`: A class.
* `ClassDecl.beq`: Sameness of classes.
* `ClassDecl.Parts`, `ClassDecl.Parts.build`: The checked way to a class.
-/

namespace JavaSource

/-- A class. -/
structure ClassDecl where
  /-- Where the class can be seen. -/
  scope : Scope
  /-- The name of the class. -/
  identifier : Identifier
  /-- Its package, never the empty text. -/
  package : Option String
  /-- Whether another class encloses it. -/
  isNested : Bool
  /-- What is said about the class. -/
  annotations : List AnnotationExpr
  /-- The interfaces it implements. -/
  implementsTypes : List JavaType
  /-- The class it extends. -/
  extendsType : Option JavaType
  /-- Whether its objects are independent of those of the enclosing class. -/
  isStatic : Bool
  /-- Whether the class cannot be extended. -/
  isFinal : Bool
  /-- Whether the class must be extended. -/
  isAbstract : Bool
  /-- The declarations and assignments of its variables. -/
  statements : List Stmt
  /-- Its methods. -/
  methods : List Method
  /-- The classes it encloses. -/
  classes : List ClassDecl

namespace ClassDecl

mutual

/-- Whether two classes are the same. -/
def beq : ClassDecl → ClassDecl → Bool
  | ⟨scope, identifier, package, isNested, annotations, implementsTypes, extendsType, isStatic,
      isFinal, isAbstract, statements, methods, classes⟩,
    ⟨scope', identifier', package', isNested', annotations', implementsTypes', extendsType',
      isStatic', isFinal', isAbstract', statements', methods', classes'⟩ =>
    scope == scope' && identifier == identifier' && package == package' && isNested == isNested'
      && sameMembers annotations annotations' && sameMembers implementsTypes implementsTypes'
      && extendsType == extendsType' && isStatic == isStatic' && isFinal == isFinal'
      && isAbstract == isAbstract' && statements == statements' && methods == methods'
      && beqAll classes classes'

/-- Whether two lists of classes are the same, place by place. -/
def beqAll : List ClassDecl → List ClassDecl → Bool
  | [], [] => true
  | c :: cs, c' :: cs' => beq c c' && beqAll cs cs'
  | _, _ => false

end

instance : BEq ClassDecl where
  beq := beq

/-- The name of the class, as text. -/
def name (c : ClassDecl) : String :=
  c.identifier.name

/-- The parts of a class. -/
structure Parts where
  /-- Where the class can be seen. -/
  scope : Option Scope
  /-- The name of the class. -/
  name : String
  /-- Its package; the empty text counts as absent. -/
  package : Option String
  /-- Whether another class encloses it. -/
  isNested : Bool
  /-- What is said about the class. -/
  annotations : List AnnotationExpr
  /-- The interfaces it implements. -/
  implementsTypes : List JavaType
  /-- The class it extends. -/
  extendsType : Option JavaType
  /-- Whether its objects are independent of those of the enclosing class. -/
  isStatic : Bool
  /-- Whether the class cannot be extended. -/
  isFinal : Bool
  /-- Whether the class must be extended. -/
  isAbstract : Bool
  /-- The declarations and assignments of its variables. -/
  statements : List Stmt
  /-- Its methods. -/
  methods : List Method
  /-- The classes it encloses. -/
  classes : List ClassDecl

namespace Parts

/-- The package, if it has a name. -/
def namedPackage (p : Parts) : Option String :=
  p.package.filter (fun name => !name.isEmpty)

/-- The implemented types, each once. -/
def implementsSet (p : Parts) : List JavaType :=
  p.implementsTypes.eraseDups

/-- Refuse an outermost class without a package, or with a modifier that only
    an enclosed class can have. -/
def checkOuter (p : Parts) (scope : Scope) : Build Unit := do
  let _ ← required .classDecl .package p.namedPackage
  rejectIf p.isStatic .classDecl .staticOuter
  rejectIf (scope == .privateScope) .classDecl .privateOuter

/-- Refuse a class that extends what is not a class, or what it implements. -/
def checkExtends (p : Parts) : Build Unit :=
  match p.extendsType with
  | none => pure ()
  | some t => do
    rejectIf (!t.isReference) .classDecl .extendsNotReference
    rejectIf (p.implementsSet.contains t) .classDecl .extendsImplemented

/-- Refuse a statement that neither declares a variable of the class nor
    assigns to one. -/
def checkMember : Stmt → Build Unit
  | .expr (.var v) => do
    rejectIf (!v.isDeclaration) .classDecl .memberNotDeclared
    rejectIf (v.scope == .localScope) .classDecl (.memberLocal v.name)
  | .expr (.assignment target _) =>
    rejectIf (target.scope == .localScope) .classDecl (.memberTargetLocal target.name)
  | .expr e => rejectFault .classDecl (.memberNotVariable e.nodeKind)
  | s => rejectFault .classDecl (.memberNotExpression s.nodeKind)

/-- Refuse the first such statement of a class body. -/
def checkMembers : List Stmt → Build Unit
  | [] => pure ()
  | s :: rest => do
    checkMember s
    checkMembers rest

/-- A class. -/
def build (p : Parts) : Build ClassDecl := do
  let identifier ← Identifier.derive .classDecl p.name
  let scope ← required .classDecl .scope p.scope
  rejectIf (scope == .localScope) .classDecl .localClass
  if p.isNested then pure () else p.checkOuter scope
  rejectIf (p.isAbstract && p.isFinal) .classDecl .abstractFinal
  p.checkExtends
  rejectIf (p.implementsSet.any (fun t => !t.isReference)) .classDecl .implementsNotReference
  checkMembers p.statements
  pure
    { scope, identifier
      package := p.namedPackage
      isNested := p.isNested
      annotations := p.annotations.eraseDups
      implementsTypes := p.implementsSet
      extendsType := p.extendsType
      isStatic := p.isStatic
      isFinal := p.isFinal
      isAbstract := p.isAbstract
      statements := p.statements
      methods := p.methods
      classes := p.classes }

end Parts

end ClassDecl

end JavaSource
