import JavaSource.Draft
import JavaSource.Proofs.Outcome

/-!
# Reported Refusals

Who reads the log of a generator wants to find each refused node there, once, and nothing
about nodes that were built. An event is reported where a refusal is made, not where it is
returned. So a builder that made an error only to drop it, or to wrap it into another,
would leave a trace of something that the caller never saw. This module shows that there
is no such builder.

`Build.ReportsOnce` relates the two results of building, the outcome and the events. It is
kept by sequences: if the first step succeeds it has reported nothing, and if it is refused
the rest does not run. So it has to be looked at only where refusals are made, and each
builder follows along its steps, however many of its parts are wrong. What a draft builds
is a sequence of such builders, by recursion on the draft. References are just made of
their fields and never refused, so they need no rule.

A misuse is no refusal: it is made by passes over finished trees, and no builder ends with
one. `ReportsOnce` says that as well, since a misuse would not be reported.

## Main definitions

* `Log.Event.TellsOf`: The event reports the refusal of a node with an error.
* `Build.ReportsOnce`: A refusal is reported once, and nothing else is.

## Theorems

* `Build.ReportsOnce.bind`: A sequence reports once if its steps do.
* `Method.reportsOnce_build`, `ClassDecl.reportsOnce_build` and their companions: Every
  builder reports once.
* `ExprDraft.reportsOnce_build`, `StmtDraft.reportsOnce_build`,
  `ClassDraft.reportsOnce_build`: So do drafts, to any depth.
* `drafts_report_refusal_once`: What is reported when a draft is built.
-/

namespace JavaSource

/-- The event reports that a node was refused with the error: it is one of the events about
    nodes, and it carries the kind and the message of the error. -/
structure Log.Event.TellsOf (v : Log.Event) (e : NodeError) : Prop where
  target : v.target = "jgen.ast"
  level : v.level = .debug
  message : v.message = "builder rejected node"
  fields : v.fields = [("kind", .text e.kind.name), ("error", .text e.message)]

theorem NodeError.tellsOf_event (e : NodeError) : e.event.TellsOf e :=
  ⟨rfl, rfl, rfl, rfl⟩

namespace Build

variable {α β : Type}

/-- A success is not reported at all, and a refusal is reported by one event that tells of
    it. No refusal is a misuse. -/
structure ReportsOnce (b : Build α) : Prop where
  events_of_ok : ∀ a, b.outcome = .ok a → b.run.events = []
  events_of_error : ∀ e, b.outcome = .error e →
    e.kind ≠ .misuse ∧ ∃ v, b.run.events = [v] ∧ v.TellsOf e

theorem reportsOnce_pure (a : α) : ReportsOnce (pure a : Build α) where
  events_of_ok _ _ := rfl
  events_of_error e h := by cases h

theorem reportsOnce_reject {e : NodeError} (h : e.kind ≠ .misuse) :
    ReportsOnce (reject e : Build α) where
  events_of_ok a ha := by cases ha
  events_of_error e' he := by
    cases he
    exact ⟨h, e.event, rfl, e.tellsOf_event⟩

theorem reportsOnce_rejectFault (node : NodeKind) (fault : Fault) :
    ReportsOnce (rejectFault node fault : Build α) :=
  reportsOnce_reject (by simp [NodeError.kind])

theorem reportsOnce_missing (node : NodeKind) (field : Field) :
    ReportsOnce (reject (.missing node field) : Build α) :=
  reportsOnce_reject (by simp [NodeError.kind])

theorem reportsOnce_ite {condition : Prop} [Decidable condition] {x y : Build α}
    (hx : x.ReportsOnce) (hy : y.ReportsOnce) : (if condition then x else y).ReportsOnce := by
  split
  · exact hx
  · exact hy

theorem reportsOnce_rejectIf (condition : Bool) (node : NodeKind) (fault : Fault) :
    (rejectIf condition node fault).ReportsOnce :=
  reportsOnce_ite (reportsOnce_rejectFault node fault) (reportsOnce_pure ())

theorem reportsOnce_required (node : NodeKind) (field : Field) (part : Option α) :
    (required node field part).ReportsOnce := by
  cases part with
  | none => exact reportsOnce_missing _ _
  | some a => exact reportsOnce_pure a

theorem events_bind_of_ok {x : Build α} {f : α → Build β} {a : α} (h : x.outcome = .ok a) :
    (x >>= f).run.events = x.run.events ++ (f a).run.events := by
  have hvalue : x.run.value = .ok a := h
  show x.run.events ++ (ExceptT.bindCont f x.run.value).events = _
  rw [hvalue]
  rfl

theorem events_bind_of_error {x : Build α} {f : α → Build β} {e : NodeError}
    (h : x.outcome = .error e) : (x >>= f).run.events = x.run.events := by
  have hvalue : x.run.value = .error e := h
  show x.run.events ++ (ExceptT.bindCont f x.run.value).events = _
  rw [hvalue]
  exact List.append_nil _

/-- A sequence reports once. Its first step has reported nothing if the rest is run, and
    the rest is not run if the first step has reported. -/
theorem ReportsOnce.bind {x : Build α} {f : α → Build β} (hx : x.ReportsOnce)
    (hf : ∀ a, (f a).ReportsOnce) : (x >>= f).ReportsOnce := by
  cases hout : x.outcome with
  | error e =>
      have hbind : (x >>= f).outcome = .error e := by
        rw [outcome_bind, hout]
        rfl
      have hevents : (x >>= f).run.events = x.run.events := events_bind_of_error hout
      refine ⟨fun b hb => ?_, fun e' he => ?_⟩
      · rw [hbind] at hb
        cases hb
      · rw [hbind] at he
        cases he
        rw [hevents]
        exact hx.events_of_error e hout
  | ok a =>
      have hbind : (x >>= f).outcome = (f a).outcome := by
        rw [outcome_bind, hout]
        rfl
      have hevents : (x >>= f).run.events = (f a).run.events := by
        rw [events_bind_of_ok hout, hx.events_of_ok a hout, List.nil_append]
      refine ⟨fun b hb => ?_, fun e he => ?_⟩
      · rw [hevents]
        exact (hf a).events_of_ok b (hbind ▸ hb)
      · rw [hevents]
        exact (hf a).events_of_error e (hbind ▸ he)

theorem reportsOnce_buildOption {build : α → Build β} (h : ∀ a, (build a).ReportsOnce)
    (part : Option α) : (buildOption build part).ReportsOnce := by
  cases part with
  | none => exact reportsOnce_pure none
  | some a => exact (h a).bind (fun _ => reportsOnce_pure _)

theorem reportsOnce_buildAll {build : α → Build β} (h : ∀ a, (build a).ReportsOnce)
    (parts : List α) : (buildAll build parts).ReportsOnce := by
  induction parts with
  | nil => exact reportsOnce_pure []
  | cons a rest ih => exact (h a).bind (fun _ => ih.bind (fun _ => reportsOnce_pure _))

end Build

open Build

/-! ### Builders -/

theorem Identifier.reportsOnce_derive (node : NodeKind) (name : String) :
    (derive node name).ReportsOnce :=
  reportsOnce_ite (reportsOnce_missing _ _)
    (reportsOnce_ite (reportsOnce_rejectFault _ _)
      (reportsOnce_ite (reportsOnce_rejectFault _ _) (reportsOnce_pure _)))

theorem JavaType.reportsOnce_ofKind (kind : TypeKind) (isArray : Bool) :
    (ofKind kind isArray).ReportsOnce := by
  cases kind with
  | object => exact reportsOnce_rejectFault _ _
  | void => exact reportsOnce_ite (reportsOnce_rejectFault _ _) (reportsOnce_pure _)
  | _ => exact reportsOnce_pure _

theorem JavaType.reportsOnce_ofException (r : Reference) : (ofException r).ReportsOnce :=
  reportsOnce_ite (reportsOnce_pure _) (reportsOnce_rejectFault _ _)

theorem AnnotationExpr.reportsOnce_ofType (type : JavaType) (value : Option String) :
    (ofType type value).ReportsOnce :=
  reportsOnce_ite (reportsOnce_pure _) (reportsOnce_rejectFault _ _)

theorem Variable.reportsOnce_make (name : String) (type : JavaType) :
    (make name type).ReportsOnce := by
  refine (Identifier.reportsOnce_derive _ _).bind (fun _ => ?_)
  exact (reportsOnce_rejectIf _ _ _).bind (fun _ => reportsOnce_pure _)

theorem VariableExpr.reportsOnce_build (p : Parts) : p.build.ReportsOnce := by
  refine (reportsOnce_required _ _ _).bind (fun _ => ?_)
  exact (reportsOnce_rejectIf _ _ _).bind (fun _ => reportsOnce_pure _)

theorem Expr.reportsOnce_makeLiteral (type : JavaType) (text : String) :
    (makeLiteral type text).ReportsOnce := by
  refine (reportsOnce_rejectIf _ _ _).bind (fun _ => ?_)
  exact reportsOnce_ite (reportsOnce_missing _ _) (reportsOnce_pure _)

theorem Expr.reportsOnce_buildCall (p : CallParts) : p.build.ReportsOnce := by
  refine (Identifier.reportsOnce_derive _ _).bind (fun _ => ?_)
  refine (reportsOnce_rejectIf _ _ _).bind (fun _ => ?_)
  exact (reportsOnce_rejectIf _ _ _).bind (fun _ => reportsOnce_pure _)

theorem Assignment.reportsOnce_build (p : Parts) : p.build.ReportsOnce := by
  refine (reportsOnce_required _ _ _).bind (fun _ => ?_)
  exact (reportsOnce_required _ _ _).bind (fun _ => reportsOnce_pure _)

theorem Stmt.reportsOnce_requireBooleans (node : NodeKind) (branches : List (Expr × List Stmt)) :
    (requireBooleans node branches).ReportsOnce := by
  induction branches with
  | nil => exact reportsOnce_pure ()
  | cons b rest ih => exact (reportsOnce_rejectIf _ _ _).bind (fun _ => ih)

theorem IfParts.reportsOnce_build (p : IfParts) : p.build.ReportsOnce := by
  refine (reportsOnce_required _ _ _).bind (fun _ => ?_)
  refine (reportsOnce_rejectIf _ _ _).bind (fun _ => ?_)
  exact (Stmt.reportsOnce_requireBooleans _ _).bind (fun _ => reportsOnce_pure _)

theorem ForParts.reportsOnce_build (p : ForParts) : p.build.ReportsOnce := by
  refine (reportsOnce_required _ _ _).bind (fun _ => ?_)
  refine (reportsOnce_required _ _ _).bind (fun _ => ?_)
  exact (reportsOnce_rejectIf _ _ _).bind (fun _ => reportsOnce_pure _)

theorem WhileParts.reportsOnce_build (p : WhileParts) : p.build.ReportsOnce := by
  refine (reportsOnce_required _ _ _).bind (fun _ => ?_)
  exact (reportsOnce_rejectIf _ _ _).bind (fun _ => reportsOnce_pure _)

namespace TryParts

theorem reportsOnce_checkResource (p : TryParts) : p.checkResource.ReportsOnce := by
  unfold checkResource
  cases p.resource with
  | none => exact reportsOnce_pure ()
  | some a => exact reportsOnce_rejectIf _ _ _

theorem reportsOnce_checkCatch (p : TryParts) : p.checkCatch.ReportsOnce := by
  unfold checkCatch
  cases p.catchVariable with
  | none => exact reportsOnce_ite (reportsOnce_pure ()) (reportsOnce_missing _ _)
  | some v => exact (reportsOnce_rejectIf _ _ _).bind (fun _ => reportsOnce_rejectIf _ _ _)

theorem reportsOnce_build (p : TryParts) : p.build.ReportsOnce := by
  refine p.reportsOnce_checkResource.bind (fun _ => ?_)
  exact p.reportsOnce_checkCatch.bind (fun _ => reportsOnce_pure _)

end TryParts

namespace Method

theorem reportsOnce_checkReturn (returnType : JavaType) (returnExpr : Option Expr) :
    (Parts.checkReturn returnType returnExpr).ReportsOnce := by
  cases returnExpr with
  | none => exact reportsOnce_rejectIf _ _ _
  | some e => exact reportsOnce_rejectIf _ _ _

theorem reportsOnce_checkArguments (arguments : List VariableExpr) :
    (Parts.checkArguments arguments).ReportsOnce := by
  induction arguments with
  | nil => exact reportsOnce_pure ()
  | cons v rest ih => exact (reportsOnce_rejectIf _ _ _).bind (fun _ => ih)

theorem reportsOnce_checkThrows (types : List JavaType) :
    (Parts.checkThrows types).ReportsOnce := by
  induction types with
  | nil => exact reportsOnce_pure ()
  | cons t rest ih =>
      cases t with
      | reference r isArray =>
          refine (reportsOnce_rejectIf _ _ _).bind (fun _ => ?_)
          exact (reportsOnce_rejectIf _ _ _).bind (fun _ => ih)
      | void => exact reportsOnce_rejectFault _ _
      | primitive p isArray => exact reportsOnce_rejectFault _ _

theorem reportsOnce_build (p : Parts) : p.build.ReportsOnce := by
  refine (Identifier.reportsOnce_derive _ _).bind (fun _ => ?_)
  refine (reportsOnce_required _ _ _).bind (fun _ => ?_)
  refine (reportsOnce_required _ _ _).bind (fun _ => ?_)
  refine (reportsOnce_rejectIf _ _ _).bind (fun _ => ?_)
  refine (reportsOnce_rejectIf _ _ _).bind (fun _ => ?_)
  refine (reportsOnce_checkReturn _ _).bind (fun _ => ?_)
  refine (reportsOnce_checkArguments _).bind (fun _ => ?_)
  exact (reportsOnce_checkThrows _).bind (fun _ => reportsOnce_pure _)

end Method

namespace ClassDecl

theorem reportsOnce_checkOuter (p : Parts) (scope : Scope) : (p.checkOuter scope).ReportsOnce := by
  refine (reportsOnce_required _ _ _).bind (fun _ => ?_)
  exact (reportsOnce_rejectIf _ _ _).bind (fun _ => reportsOnce_rejectIf _ _ _)

theorem reportsOnce_checkExtends (p : Parts) : p.checkExtends.ReportsOnce := by
  unfold Parts.checkExtends
  cases p.extendsType with
  | none => exact reportsOnce_pure ()
  | some t => exact (reportsOnce_rejectIf _ _ _).bind (fun _ => reportsOnce_rejectIf _ _ _)

theorem reportsOnce_checkMember (s : Stmt) : (Parts.checkMember s).ReportsOnce := by
  cases s with
  | expr e =>
      cases e with
      | var v => exact (reportsOnce_rejectIf _ _ _).bind (fun _ => reportsOnce_rejectIf _ _ _)
      | assignment target value => exact reportsOnce_rejectIf _ _ _
      | _ => exact reportsOnce_rejectFault _ _
  | _ => exact reportsOnce_rejectFault _ _

theorem reportsOnce_checkMembers (ss : List Stmt) : (Parts.checkMembers ss).ReportsOnce := by
  induction ss with
  | nil => exact reportsOnce_pure ()
  | cons s rest ih => exact (reportsOnce_checkMember s).bind (fun _ => ih)

theorem reportsOnce_build (p : Parts) : p.build.ReportsOnce := by
  refine (Identifier.reportsOnce_derive _ _).bind (fun _ => ?_)
  refine (reportsOnce_required _ _ _).bind (fun scope => ?_)
  refine (reportsOnce_rejectIf _ _ _).bind (fun _ => ?_)
  -- The checks after the choice are the same on both of its sides.
  have hrest : ∀ c : ClassDecl, (do
      rejectIf (p.isAbstract && p.isFinal) .classDecl .abstractFinal
      p.checkExtends
      rejectIf (p.implementsSet.any (fun t => !t.isReference)) .classDecl .implementsNotReference
      Parts.checkMembers p.statements
      pure c : Build ClassDecl).ReportsOnce := by
    intro c
    refine (reportsOnce_rejectIf _ _ _).bind (fun _ => ?_)
    refine (reportsOnce_checkExtends p).bind (fun _ => ?_)
    refine (reportsOnce_rejectIf _ _ _).bind (fun _ => ?_)
    exact (reportsOnce_checkMembers _).bind (fun _ => reportsOnce_pure _)
  refine reportsOnce_ite (hrest _) ((reportsOnce_checkOuter p scope).bind (fun _ => hrest _))

end ClassDecl

/-! ### Drafts -/

theorem TypeDraft.reportsOnce_build (d : TypeDraft) : d.build.ReportsOnce := by
  cases d with
  | ofKind kind isArray => exact JavaType.reportsOnce_ofKind kind isArray
  | ofException r => exact JavaType.reportsOnce_ofException r
  | ofReference r isArray => exact reportsOnce_pure _

theorem AnnotationDraft.reportsOnce_build (d : AnnotationDraft) : d.build.ReportsOnce := by
  cases d with
  | ofType type value =>
      exact type.reportsOnce_build.bind (fun _ => AnnotationExpr.reportsOnce_ofType _ _)
  | _ => exact reportsOnce_pure _

theorem VariableDraft.reportsOnce_build (d : VariableDraft) : d.build.ReportsOnce :=
  d.type.reportsOnce_build.bind (fun _ => Variable.reportsOnce_make _ _)

theorem VariableExprDraft.reportsOnce_build (d : VariableExprDraft) : d.build.ReportsOnce :=
  (reportsOnce_buildOption VariableDraft.reportsOnce_build _).bind
    (fun _ => VariableExpr.reportsOnce_build _)

namespace ExprDraft

mutual

theorem reportsOnce_build : ∀ d : ExprDraft, d.build.ReportsOnce
  | literal type text => by
      rw [build]
      exact type.reportsOnce_build.bind (fun _ => Expr.reportsOnce_makeLiteral _ _)
  | string text => by
      rw [build]
      exact reportsOnce_pure _
  | var v => by
      rw [build]
      exact v.reportsOnce_build.bind (fun _ => reportsOnce_pure _)
  | assignment target value => by
      rw [build]
      refine (reportsOnce_buildOption VariableExprDraft.reportsOnce_build target).bind (fun _ => ?_)
      refine (reportsOnce_buildOpt value).bind (fun _ => ?_)
      exact (Assignment.reportsOnce_build _).bind (fun _ => reportsOnce_pure _)
  | call receiver qualifier name returnType arguments generics => by
      rw [build]
      refine (reportsOnce_buildOpt receiver).bind (fun _ => ?_)
      refine (reportsOnce_buildOption TypeDraft.reportsOnce_build returnType).bind (fun _ => ?_)
      exact (reportsOnce_buildList arguments).bind (fun _ => Expr.reportsOnce_buildCall _)

theorem reportsOnce_buildOpt : ∀ d : Option ExprDraft, (buildOpt d).ReportsOnce
  | none => by
      rw [buildOpt]
      exact reportsOnce_pure none
  | some d => by
      rw [buildOpt]
      exact (reportsOnce_build d).bind (fun _ => reportsOnce_pure _)

theorem reportsOnce_buildList : ∀ ds : List ExprDraft, (buildList ds).ReportsOnce
  | [] => by
      rw [buildList]
      exact reportsOnce_pure []
  | d :: rest => by
      rw [buildList]
      refine (reportsOnce_build d).bind (fun _ => ?_)
      exact (reportsOnce_buildList rest).bind (fun _ => reportsOnce_pure _)

end

end ExprDraft

theorem AssignmentDraft.reportsOnce_build (d : AssignmentDraft) : d.build.ReportsOnce := by
  refine (reportsOnce_buildOption VariableExprDraft.reportsOnce_build _).bind (fun _ => ?_)
  refine (reportsOnce_buildOption ExprDraft.reportsOnce_build _).bind (fun _ => ?_)
  exact Assignment.reportsOnce_build _

namespace StmtDraft

mutual

theorem reportsOnce_build : ∀ d : StmtDraft, d.build.ReportsOnce
  | expr e => by
      rw [build]
      exact e.reportsOnce_build.bind (fun _ => reportsOnce_pure _)
  | ifElse condition body elseIfs elseBody => by
      rw [build]
      refine (reportsOnce_buildOption ExprDraft.reportsOnce_build condition).bind (fun _ => ?_)
      refine (reportsOnce_buildList body).bind (fun _ => ?_)
      refine (reportsOnce_buildBranches elseIfs).bind (fun _ => ?_)
      exact (reportsOnce_buildList elseBody).bind (fun _ => IfParts.reportsOnce_build _)
  | forEach loopVariable collection body => by
      rw [build]
      refine (reportsOnce_buildOption VariableExprDraft.reportsOnce_build loopVariable).bind
        (fun _ => ?_)
      refine (reportsOnce_buildOption ExprDraft.reportsOnce_build collection).bind (fun _ => ?_)
      exact (reportsOnce_buildList body).bind (fun _ => ForParts.reportsOnce_build _)
  | whileLoop condition body => by
      rw [build]
      refine (reportsOnce_buildOption ExprDraft.reportsOnce_build condition).bind (fun _ => ?_)
      exact (reportsOnce_buildList body).bind (fun _ => WhileParts.reportsOnce_build _)
  | tryCatch resource body catchVariable catchBody isSample => by
      rw [build]
      refine (reportsOnce_buildOption AssignmentDraft.reportsOnce_build resource).bind (fun _ => ?_)
      refine (reportsOnce_buildList body).bind (fun _ => ?_)
      refine (reportsOnce_buildOption VariableExprDraft.reportsOnce_build catchVariable).bind
        (fun _ => ?_)
      exact (reportsOnce_buildList catchBody).bind (fun _ => TryParts.reportsOnce_build _)

theorem reportsOnce_buildList : ∀ ds : List StmtDraft, (buildList ds).ReportsOnce
  | [] => by
      rw [buildList]
      exact reportsOnce_pure []
  | d :: rest => by
      rw [buildList]
      refine (reportsOnce_build d).bind (fun _ => ?_)
      exact (reportsOnce_buildList rest).bind (fun _ => reportsOnce_pure _)

theorem reportsOnce_buildBranches :
    ∀ ds : List (ExprDraft × List StmtDraft), (buildBranches ds).ReportsOnce
  | [] => by
      rw [buildBranches]
      exact reportsOnce_pure []
  | (condition, body) :: rest => by
      rw [buildBranches]
      refine condition.reportsOnce_build.bind (fun _ => ?_)
      refine (reportsOnce_buildList body).bind (fun _ => ?_)
      exact (reportsOnce_buildBranches rest).bind (fun _ => reportsOnce_pure _)

end

end StmtDraft

theorem MethodDraft.reportsOnce_build (d : MethodDraft) : d.build.ReportsOnce := by
  refine (reportsOnce_buildOption TypeDraft.reportsOnce_build _).bind (fun _ => ?_)
  refine (reportsOnce_buildAll AnnotationDraft.reportsOnce_build _).bind (fun _ => ?_)
  refine (reportsOnce_buildAll TypeDraft.reportsOnce_build _).bind (fun _ => ?_)
  refine (reportsOnce_buildAll VariableExprDraft.reportsOnce_build _).bind (fun _ => ?_)
  refine (StmtDraft.reportsOnce_buildList _).bind (fun _ => ?_)
  refine (reportsOnce_buildOption ExprDraft.reportsOnce_build _).bind (fun _ => ?_)
  exact Method.reportsOnce_build _

namespace ClassDraft

mutual

theorem reportsOnce_build : ∀ d : ClassDraft, d.build.ReportsOnce
  | ⟨scope, name, package, isNested, annotations, implementsTypes, extendsType, isStatic, isFinal,
      isAbstract, statements, methods, classes⟩ => by
      rw [build]
      refine (reportsOnce_buildAll AnnotationDraft.reportsOnce_build annotations).bind (fun _ => ?_)
      refine (reportsOnce_buildAll TypeDraft.reportsOnce_build implementsTypes).bind (fun _ => ?_)
      refine (reportsOnce_buildOption TypeDraft.reportsOnce_build extendsType).bind (fun _ => ?_)
      refine (StmtDraft.reportsOnce_buildList statements).bind (fun _ => ?_)
      refine (reportsOnce_buildAll MethodDraft.reportsOnce_build methods).bind (fun _ => ?_)
      exact (reportsOnce_buildList classes).bind (fun _ => ClassDecl.reportsOnce_build _)

theorem reportsOnce_buildList : ∀ ds : List ClassDraft, (buildList ds).ReportsOnce
  | [] => by
      rw [buildList]
      exact reportsOnce_pure []
  | d :: rest => by
      rw [buildList]
      refine (reportsOnce_build d).bind (fun _ => ?_)
      exact (reportsOnce_buildList rest).bind (fun _ => reportsOnce_pure _)

end

end ClassDraft

/-- Whatever is described, and whatever is wrong with it at any depth: if it is built,
    nothing is reported, and if it is refused, one event tells of the error that is
    returned. No misuse is returned. -/
theorem drafts_report_refusal_once :
    (∀ d : TypeDraft, d.build.ReportsOnce) ∧ (∀ d : AnnotationDraft, d.build.ReportsOnce) ∧
      (∀ d : VariableDraft, d.build.ReportsOnce) ∧ (∀ d : VariableExprDraft, d.build.ReportsOnce) ∧
      (∀ d : ExprDraft, d.build.ReportsOnce) ∧ (∀ d : AssignmentDraft, d.build.ReportsOnce) ∧
      (∀ d : StmtDraft, d.build.ReportsOnce) ∧ (∀ d : MethodDraft, d.build.ReportsOnce) ∧
      (∀ d : ClassDraft, d.build.ReportsOnce) :=
  ⟨TypeDraft.reportsOnce_build, AnnotationDraft.reportsOnce_build,
    VariableDraft.reportsOnce_build, VariableExprDraft.reportsOnce_build,
    ExprDraft.reportsOnce_build, AssignmentDraft.reportsOnce_build, StmtDraft.reportsOnce_build,
    MethodDraft.reportsOnce_build, ClassDraft.reportsOnce_build⟩

/-- A loop without a condition, around one whose condition is a text: only the inner loop is
    refused, since the outer one is not come to. -/
example : (StmtDraft.whileLoop none [.whileLoop (some (.string "again")) []]).build.run.events =
    [.nodeRejected "IllegalDeclarationState"
      "invalid WhileStatement: condition ValueExpr must be of type boolean"] := by
  rfl

end JavaSource
