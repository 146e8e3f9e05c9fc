import JavaSource.Scope
import JavaSource.Log.Logged

/-!
# Errors About Nodes

A node of a source tree is built only if it obeys the rules of the language
that a generator of sources can break. What is wrong with a node is a
`Fault`; an error names the node that was being built as well. The third
kind of error, a misuse, arises after building: a pass over a finished tree
meets a node it cannot handle.

Building a node reports each refusal once, at the moment of refusing
(`reject`). A misuse is not a refusal, and is not reported here.

## Main definitions

* `NodeKind`: The kinds of nodes.
* `Fault`: The rules a node can break.
* `NodeError`: An error about a node, with its `kind` and `message`.
* `Build`: A computation that builds a node and reports its refusals.
* `reject`: Refusing to build a node.
-/

namespace JavaSource

/-- The kinds of nodes a source tree has. -/
inductive NodeKind where
  | identifier
  | scope
  | reference
  | type
  | annotationExpr
  | var
  | value
  | variableExpr
  | assignment
  | call
  | exprStmt
  | ifStmt
  | forStmt
  | whileStmt
  | tryCatch
  | method
  | classDecl
deriving DecidableEq, Repr

/-- The name of a kind of node in messages. -/
def NodeKind.name : NodeKind → String
  | .identifier => "Identifier"
  | .scope => "Scope"
  | .reference => "Reference"
  | .type => "TypeNode"
  | .annotationExpr => "AnnotationNode"
  | .var => "Variable"
  | .value => "ValueExpr"
  | .variableExpr => "VariableExpr"
  | .assignment => "AssignmentExpr"
  | .call => "MethodInvocationExpr"
  | .exprStmt => "ExprStatement"
  | .ifStmt => "IfStatement"
  | .forStmt => "ForStatement"
  | .whileStmt => "WhileStatement"
  | .tryCatch => "TryCatchStatement"
  | .method => "MethodDefinition"
  | .classDecl => "ClassDefinition"

/-- The parts a node cannot do without. -/
inductive Field where
  | name
  | scope
  | package
  | returnType
  | literal
  | var
  | assigned
  | assignedValue
  | condition
  | loopVariable
  | collection
  | catchVariable
deriving DecidableEq, Repr

/-- The name of a part in messages. -/
def Field.label : Field → String
  | .name => "name"
  | .scope => "scope"
  | .package => "package"
  | .returnType => "return_type"
  | .literal => "literal"
  | .var => "variable"
  | .assigned => "variable_expr"
  | .assignedValue => "value_expr"
  | .condition => "condition_expr"
  | .loopVariable => "local_variable_expr"
  | .collection => "collection_expr"
  | .catchVariable => "catch_variable_expr"

/-- The rules a node with all its parts can break. -/
inductive Fault where
  /-- The name has a character that no identifier has in that place. -/
  | notAnIdentifier (name : String)
  /-- The name is a word of the language. -/
  | reservedWord (name : String)
  /-- A primitive type was asked of the kind of all classes. -/
  | objectNotPrimitive
  /-- There are no arrays of nothing. -/
  | voidArray
  /-- A class that is no exception stands where one is wanted. -/
  | notAnException (fullName : String)
  /-- An annotation is not a class. -/
  | annotationNotReference
  /-- A literal of a type that has none. -/
  | notAPrimitiveValue
  /-- A variable that can hold nothing. -/
  | voidVariable (name : String)
  /-- The use of a variable declares a scope. -/
  | scopedUse (name : String) (scope : Scope)
  /-- A call on a value and on a class at once. -/
  | twoReceivers
  /-- A call on a class without a name. -/
  | emptyQualifier
  /-- A condition that is not a boolean. -/
  | conditionNotBoolean (condition : NodeKind)
  /-- A loop runs over a variable it does not declare. -/
  | loopVariableNotDeclared (name : String)
  /-- A try statement assigns its resource to a variable it does not declare. -/
  | resourceNotDeclared
  /-- A try statement catches into a variable it does not declare. -/
  | catchNotDeclared
  /-- A try statement catches what cannot be thrown. -/
  | catchNotException (name : String)
  /-- A method seen in one block only. -/
  | localMethod
  /-- An abstract method that cannot be overridden. -/
  | abstractNotOverridable
  /-- A method that owes a value and returns none. -/
  | returnMissing
  /-- A method returns a value of another type than it declares. -/
  | returnMismatch
  /-- A parameter that is not declared. -/
  | argumentNotDeclared (name : String)
  /-- A thrown type that is not a class. -/
  | thrownNotReference
  /-- A thrown class that is no exception. -/
  | thrownNotException (fullName : String)
  /-- A thrown exception that need not be declared. -/
  | thrownUnchecked (name : String)
  /-- A class seen in one block only. -/
  | localClass
  /-- A static class that no class encloses. -/
  | staticOuter
  /-- A private class that no class encloses. -/
  | privateOuter
  /-- A class that must and must not be extended. -/
  | abstractFinal
  /-- A class extends what is not a class. -/
  | extendsNotReference
  /-- A class extends and implements one type. -/
  | extendsImplemented
  /-- A class implements what is not a class. -/
  | implementsNotReference
  /-- A statement in a class body that is not an expression. -/
  | memberNotExpression (found : NodeKind)
  /-- A class body uses a variable without declaring it. -/
  | memberNotDeclared
  /-- A variable of a class seen in one block only. -/
  | memberLocal (name : String)
  /-- An assignment in a class body to a variable seen in one block only. -/
  | memberTargetLocal (name : String)
  /-- An expression in a class body that declares or assigns nothing. -/
  | memberNotVariable (found : NodeKind)
deriving DecidableEq, Repr

/-- What a fault says in messages. -/
def Fault.message : Fault → String
  | .notAnIdentifier name => s!"`{name}` is not a valid identifier"
  | .reservedWord name => s!"`{name}` is a reserved keyword"
  | .objectNotPrimitive => "object is not a primitive type"
  | .voidArray => "void cannot be an array type"
  | .notAnException fullName => s!"{fullName} is not an exception type"
  | .annotationNotReference => "annotation type must be a reference type"
  | .notAPrimitiveValue => "primitive values must have a non-void, non-array primitive type"
  | .voidVariable name => s!"variable `{name}` cannot have type void"
  | .scopedUse name scope => s!"reference to `{name}` cannot carry a {scope.display} scope"
  | .twoReceivers => "only one of the receiver expression or the static reference may be set"
  | .emptyQualifier => "static reference name cannot be empty"
  | .conditionNotBoolean condition => s!"condition {condition.name} must be of type boolean"
  | .loopVariableNotDeclared name => s!"loop variable `{name}` must be a declaration"
  | .resourceNotDeclared => "try-with-resources must declare its resource variable"
  | .catchNotDeclared => "catch variable must be a declaration"
  | .catchNotException name => s!"catch variable `{name}` must have an exception type"
  | .localMethod => "methods cannot have a local scope"
  | .abstractNotOverridable => "abstract methods cannot be static, final, or private"
  | .returnMissing => "method with non-void return type must have a return expression"
  | .returnMismatch => "method return type does not match the return expression type"
  | .argumentNotDeclared name => s!"argument `{name}` must be a variable declaration"
  | .thrownNotReference => "thrown types must be reference types"
  | .thrownNotException fullName => s!"type {fullName} is not an exception type"
  | .thrownUnchecked name => s!"runtime exception type {name} does not need to be thrown"
  | .localClass => "classes cannot have a local scope"
  | .staticOuter => "outer classes cannot be static"
  | .privateOuter => "outer classes cannot be private"
  | .abstractFinal => "abstract classes cannot be marked final"
  | .extendsNotReference => "classes cannot extend non-reference types"
  | .extendsImplemented => "classes cannot extend and implement the same type"
  | .implementsNotReference => "classes cannot implement non-reference types"
  | .memberNotExpression found =>
    s!"class statement must be an expression statement, found {found.name}"
  | .memberNotDeclared => "class variable statements must be declarations"
  | .memberLocal name => s!"class variable `{name}` cannot have a local scope"
  | .memberTargetLocal name => s!"class variable `{name}` in assignment cannot have a local scope"
  | .memberNotVariable found =>
    s!"class expression statement must be an assignment or variable declaration, found {found.name}"

/-- Why a pass over a finished tree cannot handle a node. -/
inductive Misuse where
  /-- Sample code is shown to readers and never compiled. -/
  | sampleCode
  /-- A try statement catches nothing. -/
  | catchVariableRequired
deriving DecidableEq, Repr

/-- What a misuse says in messages. -/
def Misuse.message : Misuse → String
  | .sampleCode => "sample code is not resolved for imports"
  | .catchVariableRequired => "catch variable is required"

/-- An error about a node. -/
inductive NodeError where
  /-- A part that the node cannot do without is absent. -/
  | missing (node : NodeKind) (field : Field)
  /-- The node breaks a rule of the language. -/
  | illegal (node : NodeKind) (fault : Fault)
  /-- The collection of imports cannot handle the node. -/
  | misuse (node : NodeKind) (reason : Misuse)
deriving DecidableEq, Repr

namespace NodeError

/-- The three kinds of errors. -/
inductive Kind where
  | missing
  | illegal
  | misuse
deriving DecidableEq, Repr

/-- The name of a kind of error in messages. -/
def Kind.name : Kind → String
  | .missing => "MissingRequiredField"
  | .illegal => "IllegalDeclarationState"
  | .misuse => "MisuseOfTraversal"

/-- The kind of an error. -/
def kind : NodeError → Kind
  | .missing _ _ => .missing
  | .illegal _ _ => .illegal
  | .misuse _ _ => .misuse

/-- What an error says. -/
def message : NodeError → String
  | .missing node field => s!"{node.name} is missing required field `{field.label}`"
  | .illegal node fault => s!"invalid {node.name}: {fault.message}"
  | .misuse node reason => s!"ImportWriterVisitor cannot visit {node.name}: {reason.message}"

/-- The report of a refusal. -/
def event (e : NodeError) : Log.Event :=
  .nodeRejected e.kind.name e.message

end NodeError

/-- A computation that builds a node and reports its refusals. -/
abbrev Build := ExceptT NodeError Logged

/-- Refuse to build a node, and report it. -/
def reject {α : Type} (e : NodeError) : Build α :=
  (⟨.error e, [e.event]⟩ : Logged (Except NodeError α))

/-- Refuse to build a node with a fault. -/
def rejectFault {α : Type} (node : NodeKind) (fault : Fault) : Build α :=
  reject (.illegal node fault)

/-- Refuse to build a node with a fault if the condition holds. -/
def rejectIf (condition : Bool) (node : NodeKind) (fault : Fault) : Build Unit :=
  if condition then rejectFault node fault else pure ()

/-- A part that the node cannot do without. -/
def required {α : Type} (node : NodeKind) (field : Field) : Option α → Build α
  | some a => pure a
  | none => reject (.missing node field)

end JavaSource
