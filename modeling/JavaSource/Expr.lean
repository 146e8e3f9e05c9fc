import JavaSource.AnnotationExpr
import JavaSource.Identifier

/-!
# Expressions

The expressions of a method body or a class body: literals, variables,
assignments and calls. A variable stands in an expression either to be
declared there or to be used; a declaration has no value, so its type as an
expression is that of no value, and so is an assignment's.

Each kind of expression is made from its parts by a function that checks
them. The parts of the kinds with optional parts are records (`Parts`).

## Main definitions

* `Variable`, `VariableExpr`: A variable, and its place in an expression.
* `Expr`: The expressions.
* `Assignment`: An assignment on its own, as a resource of a try statement.
* `Expr.type`: The type of the value of an expression.
* `Expr.beq`: Sameness of expressions.
-/

namespace JavaSource

/-- A variable and the type of its values. -/
structure Variable where
  /-- The name of the variable. -/
  identifier : Identifier
  /-- The type of its values. -/
  type : JavaType

namespace Variable

/-- The name of the variable, as text. -/
def name (v : Variable) : String :=
  v.identifier.name

/-- A variable, which must have a type with values. -/
def make (name : String) (type : JavaType) : Build Variable := do
  let identifier ← Identifier.derive .var name
  rejectIf type.isVoid .var (.voidVariable name)
  pure ⟨identifier, type⟩

/-- Whether two variables are the same. -/
def beq (v w : Variable) : Bool :=
  v.identifier == w.identifier && v.type == w.type

instance : BEq Variable where
  beq := beq

end Variable

/-- A variable where it is declared or used. -/
structure VariableExpr where
  /-- The variable. -/
  var : Variable
  /-- Whether the variable is declared here. -/
  isDeclaration : Bool
  /-- The scope it is declared with; a use has local scope. -/
  scope : Scope

namespace VariableExpr

/-- The name of the variable, as text. -/
def name (v : VariableExpr) : String :=
  v.var.name

/-- The type of the value: a declaration has none. -/
def type (v : VariableExpr) : JavaType :=
  if v.isDeclaration then .void else v.var.type

/-- Whether two occurrences of variables are the same. -/
def beq (v w : VariableExpr) : Bool :=
  v.var == w.var && v.isDeclaration == w.isDeclaration && v.scope == w.scope

instance : BEq VariableExpr where
  beq := beq

/-- The parts of an occurrence of a variable. -/
structure Parts where
  /-- The variable. -/
  var : Option Variable
  /-- Whether it is declared here. -/
  isDeclaration : Bool
  /-- The scope it is declared with; local if absent. -/
  scope : Option Scope

/-- An occurrence of a variable. A use declares no scope. -/
def Parts.build (p : Parts) : Build VariableExpr := do
  let var ← required .variableExpr .var p.var
  let scope := p.scope.getD .localScope
  rejectIf (!p.isDeclaration && scope != .localScope) .variableExpr
    (.scopedUse var.name scope)
  pure ⟨var, p.isDeclaration, scope⟩

end VariableExpr

/-- An expression. -/
inductive Expr where
  /-- A literal of a primitive type. -/
  | literal (type : JavaType) (text : String)
  /-- A literal text. -/
  | string (text : String)
  /-- A variable, declared or used. -/
  | var (v : VariableExpr)
  /-- An assignment to a variable, declared or used. -/
  | assignment (target : VariableExpr) (value : Expr)
  /-- A call of a method on a value, on a class, or on neither. -/
  | call (receiver : Option Expr) (qualifier : Option String) (method : Identifier)
      (returnType : JavaType) (arguments : List Expr) (generics : List Reference)

namespace Expr

instance : Inhabited Expr where
  default := string ""

/-- The kind of the node. -/
def nodeKind : Expr → NodeKind
  | literal _ _ | string _ => .value
  | var _ => .variableExpr
  | assignment _ _ => .assignment
  | call _ _ _ _ _ _ => .call

/-- The type of the value of an expression. -/
def type : Expr → JavaType
  | literal type _ => type
  | string _ => .string
  | var v => v.type
  | assignment _ _ => .void
  | call _ _ _ returnType _ _ => returnType

mutual

/-- Whether two expressions are the same. -/
def beq : Expr → Expr → Bool
  | literal type text, literal type' text' => type == type' && text == text'
  | string text, string text' => text == text'
  | var v, var v' => v == v'
  | assignment target value, assignment target' value' => target == target' && beq value value'
  | call receiver qualifier method returnType arguments generics,
    call receiver' qualifier' method' returnType' arguments' generics' =>
    beqOption receiver receiver' && qualifier == qualifier' && method == method'
      && returnType == returnType' && beqAll arguments arguments' && generics == generics'
  | _, _ => false

/-- Whether two optional expressions are the same. -/
def beqOption : Option Expr → Option Expr → Bool
  | none, none => true
  | some e, some e' => beq e e'
  | _, _ => false

/-- Whether two lists of expressions are the same, place by place. -/
def beqAll : List Expr → List Expr → Bool
  | [], [] => true
  | e :: es, e' :: es' => beq e e' && beqAll es es'
  | _, _ => false

end

instance : BEq Expr where
  beq := beq

/-- A literal of a primitive type, which is no array and not the type of no
    value. -/
def makeLiteral (type : JavaType) (text : String) : Build Expr := do
  rejectIf (!type.isPrimitive || type.isVoid || type.isArray) .value .notAPrimitiveValue
  if text.isEmpty then
    reject (.missing .value .literal)
  else
    pure (literal type text)

/-- The parts of a call. -/
structure CallParts where
  /-- The value the method is called on. -/
  receiver : Option Expr
  /-- The class the method is called on. -/
  qualifier : Option String
  /-- The name of the method. -/
  name : String
  /-- The type of the value returned; that of no value if absent. -/
  returnType : Option JavaType
  /-- The arguments. -/
  arguments : List Expr
  /-- The generic arguments. -/
  generics : List Reference

/-- A call, on a value or on a named class but not on both. -/
def CallParts.build (p : CallParts) : Build Expr := do
  let method ← Identifier.derive .call p.name
  rejectIf (p.receiver.isSome && p.qualifier.isSome) .call .twoReceivers
  rejectIf (p.qualifier == some "") .call .emptyQualifier
  pure (call p.receiver p.qualifier method (p.returnType.getD .void) p.arguments p.generics)

end Expr

/-- An assignment on its own. -/
structure Assignment where
  /-- The variable assigned to. -/
  target : VariableExpr
  /-- The value assigned. -/
  value : Expr

namespace Assignment

/-- The assignment as an expression. -/
def toExpr (a : Assignment) : Expr :=
  .assignment a.target a.value

/-- Whether two assignments are the same. -/
def beq (a b : Assignment) : Bool :=
  a.target == b.target && a.value == b.value

instance : BEq Assignment where
  beq := beq

/-- The parts of an assignment. -/
structure Parts where
  /-- The variable assigned to. -/
  target : Option VariableExpr
  /-- The value assigned. -/
  value : Option Expr

/-- An assignment, which needs both its parts. -/
def Parts.build (p : Parts) : Build Assignment := do
  let target ← required .assignment .assigned p.target
  let value ← required .assignment .assignedValue p.value
  pure ⟨target, value⟩

end Assignment

end JavaSource
