import JavaSource.Expr

/-!
# Statements

The statements of a method body. A body is a list of statements, so they
nest to any depth. A try statement can be marked as sample code, which is
shown to readers and never compiled; only sample code may leave out what it
catches.

## Main definitions

* `Stmt`: The statements.
* `Stmt.beq`: Sameness of statements.
* `IfParts`, `ForParts`, `WhileParts`, `TryParts`: The checked ways to them.
-/

namespace JavaSource

/-- A statement. -/
inductive Stmt where
  /-- An expression, for its effect. -/
  | expr (e : Expr)
  /-- A choice between bodies; the branches after the first are tried in
      order, and the last body is run if no condition holds. -/
  | ifElse (condition : Expr) (body : List Stmt) (elseIfs : List (Expr × List Stmt))
      (elseBody : List Stmt)
  /-- A loop over a collection. -/
  | forEach (loopVariable : VariableExpr) (collection : Expr) (body : List Stmt)
  /-- A loop while a condition holds. -/
  | whileLoop (condition : Expr) (body : List Stmt)
  /-- A body whose exceptions are caught, with an optional resource. -/
  | tryCatch (resource : Option Assignment) (body : List Stmt)
      (catchVariable : Option VariableExpr) (catchBody : List Stmt) (isSample : Bool)

namespace Stmt

instance : Inhabited Stmt where
  default := expr default

/-- The kind of the node. -/
def nodeKind : Stmt → NodeKind
  | expr _ => .exprStmt
  | ifElse _ _ _ _ => .ifStmt
  | forEach _ _ _ => .forStmt
  | whileLoop _ _ => .whileStmt
  | tryCatch _ _ _ _ _ => .tryCatch

mutual

/-- Whether two statements are the same. -/
def beq : Stmt → Stmt → Bool
  | expr e, expr e' => e == e'
  | ifElse condition body elseIfs elseBody, ifElse condition' body' elseIfs' elseBody' =>
    condition == condition' && beqAll body body' && beqBranches elseIfs elseIfs'
      && beqAll elseBody elseBody'
  | forEach loopVariable collection body, forEach loopVariable' collection' body' =>
    loopVariable == loopVariable' && collection == collection' && beqAll body body'
  | whileLoop condition body, whileLoop condition' body' =>
    condition == condition' && beqAll body body'
  | tryCatch resource body catchVariable catchBody isSample,
    tryCatch resource' body' catchVariable' catchBody' isSample' =>
    resource == resource' && beqAll body body' && catchVariable == catchVariable'
      && beqAll catchBody catchBody' && isSample == isSample'
  | _, _ => false

/-- Whether two bodies are the same, statement by statement. -/
def beqAll : List Stmt → List Stmt → Bool
  | [], [] => true
  | s :: ss, s' :: ss' => beq s s' && beqAll ss ss'
  | _, _ => false

/-- Whether two lists of further branches are the same. -/
def beqBranches : List (Expr × List Stmt) → List (Expr × List Stmt) → Bool
  | [], [] => true
  | (condition, body) :: rest, (condition', body') :: rest' =>
    condition == condition' && beqAll body body' && beqBranches rest rest'
  | _, _ => false

end

instance : BEq Stmt where
  beq := beq

/-- Refuse a node with a condition that is not a boolean. -/
def requireBoolean (node : NodeKind) (condition : Expr) : Build Unit :=
  rejectIf (condition.type != .boolean) node (.conditionNotBoolean condition.nodeKind)

/-- Refuse a node with a branch whose condition is not a boolean. -/
def requireBooleans (node : NodeKind) : List (Expr × List Stmt) → Build Unit
  | [] => pure ()
  | (condition, _) :: rest => do
    requireBoolean node condition
    requireBooleans node rest

end Stmt

/-- The parts of a choice. -/
structure IfParts where
  /-- The first condition. -/
  condition : Option Expr
  /-- The body of the first branch. -/
  body : List Stmt
  /-- The further branches. -/
  elseIfs : List (Expr × List Stmt)
  /-- The body for when no condition holds. -/
  elseBody : List Stmt

/-- A choice, all of whose conditions are booleans. -/
def IfParts.build (p : IfParts) : Build Stmt := do
  let condition ← required .ifStmt .condition p.condition
  Stmt.requireBoolean .ifStmt condition
  Stmt.requireBooleans .ifStmt p.elseIfs
  pure (.ifElse condition p.body p.elseIfs p.elseBody)

/-- The parts of a loop over a collection. -/
structure ForParts where
  /-- The variable that takes the elements. -/
  loopVariable : Option VariableExpr
  /-- The collection. -/
  collection : Option Expr
  /-- The body of the loop. -/
  body : List Stmt

/-- A loop over a collection, which declares its variable. -/
def ForParts.build (p : ForParts) : Build Stmt := do
  let loopVariable ← required .forStmt .loopVariable p.loopVariable
  let collection ← required .forStmt .collection p.collection
  rejectIf (!loopVariable.isDeclaration) .forStmt (.loopVariableNotDeclared loopVariable.name)
  pure (.forEach loopVariable collection p.body)

/-- The parts of a conditional loop. -/
structure WhileParts where
  /-- The condition to go on. -/
  condition : Option Expr
  /-- The body of the loop. -/
  body : List Stmt

/-- A conditional loop, whose condition is a boolean. -/
def WhileParts.build (p : WhileParts) : Build Stmt := do
  let condition ← required .whileStmt .condition p.condition
  Stmt.requireBoolean .whileStmt condition
  pure (.whileLoop condition p.body)

/-- The parts of a try statement. -/
structure TryParts where
  /-- The resource opened for the body. -/
  resource : Option Assignment
  /-- The body. -/
  body : List Stmt
  /-- The variable that takes the exception. -/
  catchVariable : Option VariableExpr
  /-- The body run on an exception. -/
  catchBody : List Stmt
  /-- Whether the statement is shown to readers only. -/
  isSample : Bool

/-- Refuse a try statement that opens its resource in a variable of someone
    else. -/
def TryParts.checkResource (p : TryParts) : Build Unit :=
  match p.resource with
  | none => pure ()
  | some resource => rejectIf (!resource.target.isDeclaration) .tryCatch .resourceNotDeclared

/-- Refuse a try statement that catches nothing, or what cannot be thrown. -/
def TryParts.checkCatch (p : TryParts) : Build Unit :=
  match p.catchVariable with
  | some v => do
    rejectIf (!v.isDeclaration) .tryCatch .catchNotDeclared
    rejectIf (!v.var.type.isException) .tryCatch (.catchNotException v.name)
  | none => if p.isSample then pure () else reject (.missing .tryCatch .catchVariable)

/-- A try statement. -/
def TryParts.build (p : TryParts) : Build Stmt := do
  p.checkResource
  p.checkCatch
  pure (.tryCatch p.resource p.body p.catchVariable p.catchBody p.isSample)

end JavaSource
