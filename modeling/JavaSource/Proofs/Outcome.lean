import JavaSource.ClassDecl

/-!
# Outcomes of Building

A builder reports its refusals on the way, so its value is a result or an
error *with* a list of events. Almost every statement about builders is about
the result alone, and `Build.outcome` forgets the events. Forgetting respects
sequencing, so the outcome of a builder can be read off check by check.

Each builder then gets one lemma that says exactly which parts it accepts and
what it makes of them (`…_eq_ok`). Whoever asks what a finished node looks
like uses that lemma, and never opens the builder again. The lemmas are
equivalences: from left to right they tell what a caller can rely on, from
right to left that nothing else is asked of the parts.

## Main definitions

* `Build.outcome`: The result or the error, without the events.

## Theorems

* `Build.outcome_bind_eq_ok`: A sequence succeeds if its steps do.
* `Identifier.derive_eq_ok`: Which names are identifiers.
* `JavaType.ofException_eq_ok`, `AnnotationExpr.ofType_eq_ok`,
  `Variable.make_eq_ok`: Which types are exceptions and annotations, and which
  have variables.
* `VariableExpr.build_eq_ok`, `Expr.makeLiteral_eq_ok`,
  `Expr.buildCall_eq_ok`, `Assignment.build_eq_ok`: Which expressions exist.
* `IfParts.build_eq_ok`, `ForParts.build_eq_ok`, `WhileParts.build_eq_ok`,
  `TryParts.build_eq_ok`: Which statements exist.
* `Method.build_eq_ok`, `ClassDecl.build_eq_ok`: Which declarations exist.
-/

namespace JavaSource

namespace Build

/-- The result of building a node, or the error, without the events. -/
def outcome {α : Type} (b : Build α) : Except NodeError α :=
  b.run.value

@[simp]
theorem outcome_pure_eq_ok {α : Type} {a b : α} : outcome (pure a : Build α) = .ok b ↔ b = a := by
  show Except.ok a = Except.ok b ↔ b = a
  rw [Except.ok.injEq, eq_comm]

@[simp]
theorem outcome_reject {α : Type} (e : NodeError) : outcome (reject e : Build α) = .error e := rfl

@[simp]
theorem outcome_rejectFault {α : Type} (node : NodeKind) (fault : Fault) :
    outcome (rejectFault node fault : Build α) = .error (.illegal node fault) := rfl

theorem outcome_bind {α β : Type} (x : Build α) (f : α → Build β) :
    outcome (x >>= f) = outcome x >>= fun a => outcome (f a) := by
  -- The value of a reporting computation does not depend on what was reported.
  show (ExceptT.bindCont f x.run.value).value = _
  unfold outcome
  cases hx : x.run.value with
  | error e => rfl
  | ok a => rfl

theorem outcome_map {α β : Type} (f : α → β) (x : Build α) :
    outcome (f <$> x) = (outcome x).map f := by
  rw [map_eq_pure_bind, outcome_bind]
  cases outcome x with
  | error e => rfl
  | ok a => rfl

/-- A sequence succeeds exactly if its first step does and then the rest. -/
@[simp]
theorem outcome_bind_eq_ok {α β : Type} {x : Build α} {f : α → Build β} {b : β} :
    outcome (x >>= f) = .ok b ↔ ∃ a, outcome x = .ok a ∧ outcome (f a) = .ok b := by
  rw [outcome_bind]
  cases outcome x with
  | error e =>
      constructor
      · intro h
        cases h
      · rintro ⟨a, h, _⟩
        cases h
  | ok a =>
      constructor
      · intro h
        exact ⟨a, rfl, h⟩
      · rintro ⟨a', h, hb⟩
        cases h
        exact hb

@[simp]
theorem outcome_rejectIf_eq_ok {condition : Bool} {node : NodeKind} {fault : Fault} {u : Unit} :
    outcome (rejectIf condition node fault) = .ok u ↔ condition = false := by
  cases condition with
  | true =>
      rw [rejectIf, if_pos rfl]
      simp only [outcome_rejectFault, reduceCtorEq]
  | false => exact ⟨fun _ => rfl, fun _ => rfl⟩

/-- A node that is made under one condition and else refused. -/
theorem outcome_pureIf_eq_ok {α : Type} {condition : Bool} {node : NodeKind} {fault : Fault}
    {a b : α} :
    outcome (if condition then pure a else rejectFault node fault : Build α) = .ok b ↔
      condition = true ∧ b = a := by
  cases condition with
  | true => simp only [if_true, outcome_pure_eq_ok, true_and]
  | false => simp only [Bool.false_eq_true, if_false, outcome_rejectFault, reduceCtorEq, false_and]

@[simp]
theorem outcome_required_eq_ok {α : Type} {node : NodeKind} {field : Field} {part : Option α}
    {a : α} : outcome (required node field part) = .ok a ↔ part = some a := by
  cases part with
  | none => simp only [required, outcome_reject, reduceCtorEq]
  | some b =>
      simp only [required, outcome_pure_eq_ok, Option.some.injEq]
      exact eq_comm

end Build

open Build

/-- Exactly the spelled names that are no words of the language are
    identifiers. -/
theorem Identifier.derive_eq_ok {node : NodeKind} {name : String} {i : Identifier} :
    (derive node name).outcome = .ok i ↔
      name ≠ "" ∧ isSpelled name.toList = true ∧ name ∉ reservedWords ∧ i = ⟨name⟩ := by
  unfold derive
  -- One case for each refusal, in the order in which they are tried.
  by_cases hempty : name = ""
  · subst hempty
    simp
  · rw [if_neg (by simpa using hempty)]
    by_cases hspelled : isSpelled name.toList = true
    · rw [if_neg (by simp [hspelled])]
      by_cases hreserved : name ∈ reservedWords
      · rw [if_pos (by simpa using hreserved)]
        simp [hreserved]
      · rw [if_neg (by simpa using hreserved)]
        simp [hempty, hspelled, hreserved]
    · rw [if_pos (by simp [hspelled])]
      simp [hspelled]

namespace JavaType

/-- Sameness with the type of conditions is equality: no class is involved. -/
@[simp]
theorem bne_boolean {t : JavaType} : (t != .boolean) = false ↔ t = .boolean := by
  cases t with
  | void => exact ⟨nofun, nofun⟩
  | primitive p isArray =>
      show (!(p == .boolean && isArray == false)) = false ↔ primitive p isArray = .boolean
      simp [boolean]
  | reference r isArray => exact ⟨nofun, nofun⟩

/-- Sameness with the type of no value is equality, as well. -/
@[simp]
theorem bne_void {t : JavaType} : (t != .void) = false ↔ t = .void := by
  cases t with
  | void => exact ⟨fun _ => rfl, fun _ => rfl⟩
  | primitive p isArray => exact ⟨nofun, nofun⟩
  | reference r isArray => exact ⟨nofun, nofun⟩

theorem ofException_eq_ok {r : Reference} {t : JavaType} :
    (ofException r).outcome = .ok t ↔ r.isException = true ∧ t = .reference r false := by
  rw [ofException, outcome_pureIf_eq_ok]

end JavaType

theorem AnnotationExpr.ofType_eq_ok {type : JavaType} {value : Option String}
    {a : AnnotationExpr} :
    (ofType type value).outcome = .ok a ↔ type.isReference = true ∧ a = ⟨type, value⟩ := by
  rw [ofType, outcome_pureIf_eq_ok]

theorem Variable.make_eq_ok {name : String} {type : JavaType} {v : Variable} :
    (make name type).outcome = .ok v ↔
      ∃ i, (Identifier.derive .var name).outcome = .ok i ∧ type.isVoid = false ∧
        v = ⟨i, type⟩ := by
  simp only [make, outcome_bind_eq_ok, outcome_rejectIf_eq_ok, outcome_pure_eq_ok, exists_const]

/-- A use of a variable carries no scope of its own. -/
theorem VariableExpr.build_eq_ok {p : Parts} {e : VariableExpr} :
    p.build.outcome = .ok e ↔
      ∃ v, p.var = some v ∧
        (p.isDeclaration = false → p.scope.getD .localScope = .localScope) ∧
        e = ⟨v, p.isDeclaration, p.scope.getD .localScope⟩ := by
  simp only [Parts.build, outcome_bind_eq_ok, outcome_required_eq_ok, outcome_rejectIf_eq_ok,
    outcome_pure_eq_ok, exists_const]
  refine exists_congr (fun v => and_congr_right (fun _ => and_congr_left (fun _ => ?_)))
  cases p.isDeclaration <;> simp

namespace Expr

theorem makeLiteral_eq_ok {type : JavaType} {text : String} {e : Expr} :
    (makeLiteral type text).outcome = .ok e ↔
      type.isPrimitive = true ∧ type.isVoid = false ∧ type.isArray = false ∧ text ≠ "" ∧
        e = .literal type text := by
  simp only [makeLiteral, outcome_bind_eq_ok, outcome_rejectIf_eq_ok, exists_const]
  by_cases h : text = ""
  · subst h
    simp
  · rw [if_neg (by simpa using h)]
    simp [h, and_assoc]

/-- A call has a receiver or a class it is made on, never both. -/
theorem buildCall_eq_ok {p : CallParts} {e : Expr} :
    p.build.outcome = .ok e ↔
      ∃ method, (Identifier.derive .call p.name).outcome = .ok method ∧
        (p.receiver = none ∨ p.qualifier = none) ∧ p.qualifier ≠ some "" ∧
        e = .call p.receiver p.qualifier method (p.returnType.getD .void) p.arguments
          p.generics := by
  simp only [CallParts.build, outcome_bind_eq_ok, outcome_rejectIf_eq_ok, outcome_pure_eq_ok,
    exists_const]
  refine exists_congr (fun method => and_congr_right (fun _ => and_congr ?_ ?_))
  · -- The test for two receivers, over which of them is there.
    cases p.receiver <;> cases p.qualifier <;> simp
  · refine and_congr_left (fun _ => ?_)
    rw [beq_eq_false_iff_ne, ne_comm]

end Expr

theorem Assignment.build_eq_ok {p : Parts} {a : Assignment} :
    p.build.outcome = .ok a ↔
      ∃ target, p.target = some target ∧ ∃ value, p.value = some value ∧ a = ⟨target, value⟩ := by
  simp only [Parts.build, outcome_bind_eq_ok, outcome_required_eq_ok, outcome_pure_eq_ok]

namespace Stmt

@[simp]
theorem requireBoolean_eq_ok {node : NodeKind} {condition : Expr} {u : Unit} :
    (requireBoolean node condition).outcome = .ok u ↔ condition.type = .boolean := by
  rw [requireBoolean, outcome_rejectIf_eq_ok, JavaType.bne_boolean]

@[simp]
theorem requireBooleans_eq_ok {node : NodeKind} {branches : List (Expr × List Stmt)} {u : Unit} :
    (requireBooleans node branches).outcome = .ok u ↔
      ∀ b ∈ branches, b.1.type = .boolean := by
  induction branches with
  | nil =>
      simp only [requireBooleans, outcome_pure_eq_ok, List.not_mem_nil, false_implies,
        implies_true]
  | cons b rest ih =>
      simp only [requireBooleans, outcome_bind_eq_ok, requireBoolean_eq_ok, exists_const, ih,
        List.forall_mem_cons]

end Stmt

theorem IfParts.build_eq_ok {p : IfParts} {s : Stmt} :
    p.build.outcome = .ok s ↔
      ∃ condition, p.condition = some condition ∧ condition.type = .boolean ∧
        (∀ b ∈ p.elseIfs, b.1.type = .boolean) ∧
        s = .ifElse condition p.body p.elseIfs p.elseBody := by
  simp only [build, outcome_bind_eq_ok, outcome_required_eq_ok, Stmt.requireBoolean_eq_ok,
    Stmt.requireBooleans_eq_ok, outcome_pure_eq_ok, exists_const]

theorem ForParts.build_eq_ok {p : ForParts} {s : Stmt} :
    p.build.outcome = .ok s ↔
      ∃ v, p.loopVariable = some v ∧ ∃ collection, p.collection = some collection ∧
        v.isDeclaration = true ∧ s = .forEach v collection p.body := by
  simp only [build, outcome_bind_eq_ok, outcome_required_eq_ok, outcome_rejectIf_eq_ok,
    Bool.not_eq_false', outcome_pure_eq_ok, exists_const]

theorem WhileParts.build_eq_ok {p : WhileParts} {s : Stmt} :
    p.build.outcome = .ok s ↔
      ∃ condition, p.condition = some condition ∧ condition.type = .boolean ∧
        s = .whileLoop condition p.body := by
  simp only [build, outcome_bind_eq_ok, outcome_required_eq_ok, Stmt.requireBoolean_eq_ok,
    outcome_pure_eq_ok, exists_const]

namespace TryParts

@[simp]
theorem checkResource_eq_ok {p : TryParts} {u : Unit} :
    p.checkResource.outcome = .ok u ↔ ∀ a ∈ p.resource, a.target.isDeclaration = true := by
  unfold checkResource
  cases p.resource with
  | none => simp
  | some a => simp

/-- Only sample code may leave out what it catches. -/
@[simp]
theorem checkCatch_eq_ok {p : TryParts} {u : Unit} :
    p.checkCatch.outcome = .ok u ↔
      (∀ v ∈ p.catchVariable, v.isDeclaration = true ∧ v.var.type.isException = true) ∧
        (p.isSample = false → p.catchVariable.isSome = true) := by
  unfold checkCatch
  cases p.catchVariable with
  | some v => simp
  | none => cases p.isSample <;> simp

theorem build_eq_ok {p : TryParts} {s : Stmt} :
    p.build.outcome = .ok s ↔
      (∀ a ∈ p.resource, a.target.isDeclaration = true) ∧
        ((∀ v ∈ p.catchVariable, v.isDeclaration = true ∧ v.var.type.isException = true) ∧
          (p.isSample = false → p.catchVariable.isSome = true)) ∧
        s = .tryCatch p.resource p.body p.catchVariable p.catchBody p.isSample := by
  simp only [build, outcome_bind_eq_ok, checkResource_eq_ok, checkCatch_eq_ok,
    outcome_pure_eq_ok, exists_const]

end TryParts

namespace Method

@[simp]
theorem checkReturn_eq_ok {returnType : JavaType} {returnExpr : Option Expr} {u : Unit} :
    (Parts.checkReturn returnType returnExpr).outcome = .ok u ↔
      (returnExpr = none → returnType = .void) ∧
        ∀ e ∈ returnExpr, (e.type == returnType) = true := by
  unfold Parts.checkReturn
  cases returnExpr with
  | none => simp
  | some e => simp [bne]

@[simp]
theorem checkArguments_eq_ok {arguments : List VariableExpr} {u : Unit} :
    (Parts.checkArguments arguments).outcome = .ok u ↔
      ∀ v ∈ arguments, v.isDeclaration = true := by
  induction arguments with
  | nil => simp [Parts.checkArguments]
  | cons v rest ih =>
      simp only [Parts.checkArguments, outcome_bind_eq_ok, outcome_rejectIf_eq_ok,
        Bool.not_eq_false', exists_const, ih, List.forall_mem_cons]

/-- Every declared exception is a checked one. -/
@[simp]
theorem checkThrows_eq_ok {types : List JavaType} {u : Unit} :
    (Parts.checkThrows types).outcome = .ok u ↔
      ∀ t ∈ types, ∃ r, t.reference? = some r ∧ r.isException = true ∧ r.isUnchecked = false := by
  induction types with
  | nil => simp [Parts.checkThrows]
  | cons t rest ih =>
      rw [List.forall_mem_cons]
      -- Only a class can be thrown, and only then is there anything to check.
      cases t with
      | void => simp [Parts.checkThrows, JavaType.reference?]
      | primitive p isArray => simp [Parts.checkThrows, JavaType.reference?]
      | reference r isArray =>
          simp only [Parts.checkThrows, outcome_bind_eq_ok, outcome_rejectIf_eq_ok,
            Bool.not_eq_false', exists_const, ih, JavaType.reference?, Option.some.injEq,
            exists_eq_left', and_assoc]

theorem build_eq_ok {p : Parts} {m : Method} :
    p.build.outcome = .ok m ↔
      ∃ identifier, (Identifier.derive .method p.name).outcome = .ok identifier ∧
        ∃ scope, p.scope = some scope ∧ ∃ returnType, p.returnType = some returnType ∧
        scope ≠ .localScope ∧
        (p.isAbstract = true →
          p.isFinal = false ∧ p.isStatic = false ∧ scope ≠ .privateScope) ∧
        ((p.returnExpr = none → returnType = .void) ∧
          ∀ e ∈ p.returnExpr, (e.type == returnType) = true) ∧
        (∀ v ∈ p.arguments, v.isDeclaration = true) ∧
        (∀ t ∈ p.throwsSet,
          ∃ r, t.reference? = some r ∧ r.isException = true ∧ r.isUnchecked = false) ∧
        m =
          { scope, returnType, identifier
            annotations := p.annotationSet
            throwsTypes := p.throwsSet
            arguments := p.arguments
            isStatic := p.isStatic
            isFinal := p.isFinal
            isAbstract := p.isAbstract
            body := p.body
            returnExpr := p.returnExpr
            isOverride := p.isOverride } := by
  simp only [Parts.build, outcome_bind_eq_ok, outcome_required_eq_ok, outcome_rejectIf_eq_ok,
    checkReturn_eq_ok, checkArguments_eq_ok, checkThrows_eq_ok, outcome_pure_eq_ok, exists_const]
  refine exists_congr (fun identifier => and_congr_right (fun _ => ?_))
  refine exists_congr (fun scope => and_congr_right (fun _ => ?_))
  refine exists_congr (fun returnType => and_congr_right (fun _ => ?_))
  refine and_congr (by simp) (and_congr_left (fun _ => ?_))
  -- The refusal tests one conjunction; the specification lists what it excludes.
  cases p.isAbstract <;> simp [and_assoc]

end Method

namespace ClassDecl

@[simp]
theorem checkOuter_eq_ok {p : Parts} {scope : Scope} {u : Unit} :
    (p.checkOuter scope).outcome = .ok u ↔
      p.namedPackage.isSome = true ∧ p.isStatic = false ∧ scope ≠ .privateScope := by
  simp only [Parts.checkOuter, outcome_bind_eq_ok, outcome_required_eq_ok,
    outcome_rejectIf_eq_ok, exists_const, Option.isSome_iff_exists, exists_and_right,
    beq_eq_false_iff_ne]

@[simp]
theorem checkExtends_eq_ok {p : Parts} {u : Unit} :
    p.checkExtends.outcome = .ok u ↔
      ∀ t ∈ p.extendsType, t.isReference = true ∧ p.implementsSet.contains t = false := by
  unfold Parts.checkExtends
  cases p.extendsType with
  | none => simp
  | some t => simp

/-- A statement of a class body declares a variable, or assigns to one that
    cannot be local. -/
@[simp]
theorem checkMember_eq_ok {s : Stmt} {u : Unit} :
    (Parts.checkMember s).outcome = .ok u ↔
      (∃ v, s = .expr (.var v) ∧ v.isDeclaration = true ∧ v.scope ≠ .localScope) ∨
        ∃ target value, s = .expr (.assignment target value) ∧ target.scope ≠ .localScope := by
  cases s with
  | expr e =>
      -- Of the expressions only variables and assignments pass.
      cases e <;> simp [Parts.checkMember]
  | ifElse condition body elseIfs elseBody => simp [Parts.checkMember]
  | forEach v collection body => simp [Parts.checkMember]
  | whileLoop condition body => simp [Parts.checkMember]
  | tryCatch resource body v catchBody isSample => simp [Parts.checkMember]

@[simp]
theorem checkMembers_eq_ok {ss : List Stmt} {u : Unit} :
    (Parts.checkMembers ss).outcome = .ok u ↔
      ∀ s ∈ ss, (Parts.checkMember s).outcome = .ok () := by
  induction ss with
  | nil => simp [Parts.checkMembers]
  | cons s rest ih =>
      simp only [Parts.checkMembers, outcome_bind_eq_ok, ih, List.forall_mem_cons]
      exact ⟨fun ⟨_, hs, hrest⟩ => ⟨hs, hrest⟩, fun ⟨hs, hrest⟩ => ⟨(), hs, hrest⟩⟩

theorem build_eq_ok {p : Parts} {c : ClassDecl} :
    p.build.outcome = .ok c ↔
      ∃ identifier, (Identifier.derive .classDecl p.name).outcome = .ok identifier ∧
        ∃ scope, p.scope = some scope ∧ scope ≠ .localScope ∧
        (p.isNested = false →
          p.namedPackage.isSome = true ∧ p.isStatic = false ∧ scope ≠ .privateScope) ∧
        (p.isAbstract = true → p.isFinal = false) ∧
        (∀ t ∈ p.extendsType, t.isReference = true ∧ p.implementsSet.contains t = false) ∧
        (∀ t ∈ p.implementsSet, t.isReference = true) ∧
        (∀ s ∈ p.statements, (Parts.checkMember s).outcome = .ok ()) ∧
        c =
          { scope, identifier
            package := p.namedPackage
            isNested := p.isNested
            annotations := p.annotations.eraseDups
            implementsTypes := p.implementsSet
            extendsType := p.extendsType
            isStatic := p.isStatic
            isFinal := p.isFinal
            isAbstract := p.isAbstract
            statements := p.statements
            methods := p.methods
            classes := p.classes } := by
  simp only [Parts.build, outcome_bind_eq_ok, outcome_required_eq_ok, outcome_rejectIf_eq_ok,
    exists_const]
  refine exists_congr (fun identifier => and_congr_right (fun _ => ?_))
  refine exists_congr (fun scope => and_congr_right (fun _ => ?_))
  refine and_congr (by simp) ?_
  have habstract : (p.isAbstract && p.isFinal) = false ↔
      (p.isAbstract = true → p.isFinal = false) := by
    cases p.isAbstract <;> simp
  -- The rest of the builder follows the choice, once for each of its sides.
  cases p.isNested with
  | true =>
      simp only [if_true, outcome_bind_eq_ok, outcome_rejectIf_eq_ok, checkExtends_eq_ok,
        checkMembers_eq_ok, outcome_pure_eq_ok, exists_const, habstract, List.any_eq_false,
        Bool.not_eq_true', Bool.not_eq_false, reduceCtorEq, false_implies, true_and]
  | false =>
      simp only [Bool.false_eq_true, if_false, outcome_bind_eq_ok, checkOuter_eq_ok,
        outcome_rejectIf_eq_ok, checkExtends_eq_ok, checkMembers_eq_ok, outcome_pure_eq_ok,
        exists_const, habstract, List.any_eq_false, Bool.not_eq_true', Bool.not_eq_false,
        forall_const]

end ClassDecl

end JavaSource
