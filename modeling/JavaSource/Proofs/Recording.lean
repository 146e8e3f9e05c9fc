import JavaSource.Proofs.Preorder

/-!
# What a Recording Visitor Sees

A visitor overrides the methods for some kinds of nodes and leaves the others
alone, and below a node that it handles it may decline to go. Two visitors that
override different methods take different ways through the same tree. This
module says that they nevertheless see the same tree: what one of them records
is cut out of the record of the visitor that handles everything, and which nodes
are cut out is a matter of the nodes above them.

The nodes above a node cannot be read off the node, since equal nodes can stand
in different places of a tree, one of them below a node that is pruned and the
other not. So the nodes of a tree are listed as occurrences, each with the nodes
above it.

Which nodes stand directly below a node, and in which order, is stated apart
from all traversals (`Node.children`). An outline is what comes of applying that
again and again (`Node.outline_eq`).

A visitor that fails after some number of records is compared with the one that
never fails. Both make one pass over the same list of events, and the first one
is merely stopped in it.

## Main definitions

* `Node.children`: The nodes directly below a node, in the order of its fields.
* `Occurrence`: A node in its place, with the nodes above it.
* `Outline.occurrences`: The occurrences of an outline in pre-order.
* `Recorder.overriding`: The visitor that overrides the methods for some kinds.
* `Recorder.events`: What a visitor records unless it fails.

## Theorems

* `Node.outline_eq`: The outline of a node is made of those of its children.
* `Outline.filter_occurrences`: The nodes entered are those below open nodes.
* `Recorder.traverse_enter`: A visitor makes one pass over its events.
* `Recorder.record_cut_from_full`: What a visitor records, cut out of the full
  record.
* `Recorder.record_stopped`: A visitor that fails has recorded a first part of
  the record.
-/

namespace JavaSource

open Outline

/-! ### Children -/

namespace Node

/-- The nodes directly below a node, in the order of its fields. -/
def children : Node → List Node
  | identifier _ | scope _ => []
  | reference r => r.generics.map reference
  | type t => t.reference?.toList.map reference
  | annotationExpr a => [type a.type]
  | expr (.literal t _) => [type t]
  | expr (.string _) => [type .string]
  | expr (.var v) => [type v.var.type, identifier v.var.identifier, scope v.scope]
  | expr (.assignment target value) => [expr (.var target), expr value]
  | expr (.call receiver _ name returnType arguments generics) =>
    [type returnType] ++ receiver.toList.map expr ++ [identifier name]
      ++ generics.map reference ++ arguments.map expr
  | stmt (.expr e) => [expr e]
  | stmt (.ifElse condition body elseIfs elseBody) =>
    [expr condition] ++ body.map stmt
      ++ elseIfs.flatMap (fun b => [expr b.1] ++ b.2.map stmt) ++ elseBody.map stmt
  | stmt (.forEach v collection body) => [expr (.var v), expr collection] ++ body.map stmt
  | stmt (.whileLoop condition body) => [expr condition] ++ body.map stmt
  | stmt (.tryCatch resource body v catchBody _) =>
    resource.toList.map (fun a => expr a.toExpr) ++ body.map stmt
      ++ v.toList.map (fun v => expr (.var v)) ++ catchBody.map stmt
  | method m =>
    [scope m.scope, type m.returnType, identifier m.identifier]
      ++ m.annotations.map annotationExpr ++ m.throwsTypes.map type
      ++ m.arguments.map (fun v => expr (.var v)) ++ m.body.map stmt
      ++ m.returnExpr.toList.map expr
  | classDecl c =>
    [scope c.scope, identifier c.identifier] ++ c.annotations.map annotationExpr
      ++ c.implementsTypes.map type ++ c.extendsType.toList.map type
      ++ c.statements.map stmt ++ c.methods.map method ++ c.classes.map classDecl

/-- The outline of a node is the node above the outlines of its children. -/
theorem outline_eq (n : Node) : n.outline = .node n (n.children.map outline) := by
  cases n with
  | identifier i => rfl
  | scope s => rfl
  | reference r =>
      cases r
      simp [outline, children, ofReference, ofReferences_eq_map, Function.comp_def]
  | type t => simp [outline, children, ofType, Function.comp_def]
  | annotationExpr a => rfl
  | expr e =>
      cases e with
      | call receiver qualifier name returnType arguments generics =>
          simp [outline, children, ofExpr, ofExprOption_eq_map, ofReferences_eq_map,
            ofExprs_eq_map, Function.comp_def]
      | _ => rfl
  | stmt s =>
      cases s <;>
        simp [outline, children, ofStmt, ofStmts_eq_map, ofBranches_eq_flatMap, ofExpr,
          ofAssignment, List.map_flatMap, Function.comp_def]
  | method m =>
      simp [outline, children, ofMethod, ofStmts_eq_map, ofExprOption_eq_map, ofExpr,
        Function.comp_def]
  | classDecl c =>
      cases c
      simp [outline, children, ofClass, ofStmts_eq_map, ofClasses_eq_map, Function.comp_def]

end Node

/-! ### Occurrences -/

/-- A node in its place in a tree. -/
structure Occurrence where
  /-- The nodes above it, the outermost first. -/
  ancestors : List Node
  /-- The node itself. -/
  node : Node

namespace Outline

mutual

/-- The nodes of an outline in pre-order, each with the nodes above it; `above`
    are those above the outline. -/
def occurrences (above : List Node) : Outline → List Occurrence
  | node label children => ⟨above, label⟩ :: occurrencesAll (above ++ [label]) children

/-- The nodes of several outlines that have the same nodes above them. -/
def occurrencesAll (above : List Node) : List Outline → List Occurrence
  | [] => []
  | o :: rest => occurrences above o ++ occurrencesAll above rest

end

theorem occurrencesAll_eq_flatMap (above : List Node) (os : List Outline) :
    occurrencesAll above os = os.flatMap (occurrences above) := by
  induction os with
  | nil => rfl
  | cons o os ih => rw [occurrencesAll, List.flatMap_cons, ih]

/-- The nodes that a traversal enters are those with nothing but open nodes above
    them. -/
theorem filter_occurrences (below : Node → Bool) (o : Outline) (above : List Node) :
    ((o.occurrences above).filter (fun x => x.ancestors.all below)).map Occurrence.node =
      if above.all below then o.entered below else [] := by
  induction o using Outline.inductionOn generalizing above with
  | step label children ih =>
      -- One node more stands above the outlines below.
      have hbelow : ∀ o ∈ children, ((o.occurrences (above ++ [label])).filter
          (fun x => x.ancestors.all below)).map Occurrence.node =
            if above.all below && below label then o.entered below else [] := by
        intro o ho
        rw [ih o ho, List.all_append, List.all_cons, List.all_nil, Bool.and_true]
      have hchildren : ((occurrencesAll (above ++ [label]) children).filter
          (fun x => x.ancestors.all below)).map Occurrence.node =
            if above.all below && below label then enteredAll below children else [] := by
        rw [occurrencesAll_eq_flatMap, List.filter_flatMap, List.map_flatMap,
          List.flatMap_congr hbelow, enteredAll_eq_flatMap]
        cases above.all below && below label with
        | true => rfl
        | false => exact List.flatMap_eq_nil_iff.mpr (fun _ _ => rfl)
      rw [occurrences, entered, List.filter_cons]
      cases habove : above.all below with
      | false =>
          rw [if_neg Bool.false_ne_true, hchildren, habove]
          rfl
      | true =>
          rw [if_pos rfl, List.map_cons, hchildren, habove]
          rfl

/-- All nodes, with their places forgotten. -/
theorem map_node_occurrences (o : Outline) (above : List Node) :
    (o.occurrences above).map Occurrence.node = o.preorder := by
  have hopen : ∀ ns : List Node, ns.all (fun _ => true) = true :=
    fun ns => List.all_eq_true.mpr (fun _ _ => rfl)
  have h := filter_occurrences (fun _ => true) o above
  simp only [hopen, List.filter_true, if_true, entered_true] at h
  exact h

end Outline

/-! ### Records -/

namespace Recorder

/-- The visitor that overrides the methods for some kinds of nodes. A method that
    is overridden puts its node on record and goes on below it unless the node is
    pruned. -/
def overriding (methods : NodeKind → Bool) (prunes : Node → Bool) (failAt : Option Nat) :
    Recorder :=
  ⟨fun n => methods n.kind, prunes, failAt⟩

/-- The visitor that overrides all methods and prunes nothing. -/
def full : Recorder :=
  overriding (fun _ => true) (fun _ => false) none

/-- The traversal goes on below a node, unless the visitor handles and prunes
    it. -/
def opens (r : Recorder) (n : Node) : Bool :=
  !(r.handles n && r.prunes n)

/-- Put a node on record, unless the record is as long as it may become. -/
def keep (failAt : Option Nat) (n : Node) : ExceptT Unit (StateM (Array Node)) Unit := do
  let seen ← get
  if failAt == some seen.size then
    throw ()
  else
    set (seen.push n)

/-- What the visitor does at a node, apart from going on below it. -/
def act (r : Recorder) (n : Node) : ExceptT Unit (StateM (Array Node)) Unit :=
  if r.handles n then keep r.failAt n else pure ()

/-- The nodes that the visitor puts on record unless it fails. -/
def events (r : Recorder) (o : Outline) : List Node :=
  (o.entered r.opens).filter r.handles

theorem enter_eq_act (r : Recorder) (n : Node) :
    r.enter n = (do r.act n; pure (r.opens n)) := by
  unfold enter act keep opens
  cases r.handles n with
  | false => rfl
  | true =>
      simp only [if_true, bind_assoc, Bool.true_and]
      refine bind_congr (fun seen => ?_)
      split
      · rfl
      · rfl

/-- A visitor makes one pass over its events. -/
theorem traverse_enter (r : Recorder) (o : Outline) :
    o.traverse r.enter = (r.events o).forM (keep r.failAt) := by
  rw [traverse_eq_forM_entered r.enter_eq_act, events]
  induction o.entered r.opens with
  | nil => rfl
  | cons n ns ih =>
      have hfirst : (n :: ns).forM r.act = (do r.act n; ns.forM r.act) := rfl
      rw [hfirst, ih, act, List.filter_cons]
      -- A node that is not handled is passed by: nothing is done there.
      cases r.handles n with
      | true => rfl
      | false => exact pure_bind _ _

theorem run_keep (failAt : Option Nat) (n : Node) (seen : Array Node) :
    (keep failAt n).run.run seen =
      if failAt = some seen.size then (.error (), seen) else (.ok (), seen.push n) := by
  have hstate : (keep failAt n).run.run seen =
      (if failAt == some seen.size then throw () else set (seen.push n) :
        ExceptT Unit (StateM (Array Node)) Unit).run.run seen := rfl
  rw [hstate]
  by_cases h : failAt = some seen.size
  · rw [if_pos h, if_pos (beq_iff_eq.mpr h)]
    rfl
  · rw [if_neg h, if_neg (by rwa [beq_iff_eq])]
    rfl

/-- One step of a pass: it ends at the limit, and else its node is on record. -/
theorem run_forM_keep_cons (failAt : Option Nat) (n : Node) (ns : List Node) (seen : Array Node) :
    ((n :: ns).forM (keep failAt)).run.run seen =
      if failAt = some seen.size then (.error (), seen)
      else (ns.forM (keep failAt)).run.run (seen.push n) := by
  have hfirst : (n :: ns).forM (keep failAt) = (do keep failAt n; ns.forM (keep failAt)) := rfl
  rw [hfirst, ExceptT.run_bind, StateT.run_bind, run_keep]
  by_cases h : failAt = some seen.size
  · rw [if_pos h, if_pos h]
    rfl
  · rw [if_neg h, if_neg h]
    rfl

/-- A pass without a limit puts all events on record. -/
theorem run_forM_keep_none (ns : List Node) (seen : Array Node) :
    (ns.forM (keep none)).run.run seen = (.ok (), seen ++ ns.toArray) := by
  induction ns generalizing seen with
  | nil =>
      rw [Array.append_empty]
      rfl
  | cons n ns ih =>
      rw [run_forM_keep_cons, if_neg nofun, ih]
      simp

/-- A pass with a limit ends there, if it gets there. -/
theorem run_forM_keep_some {k : Nat} (ns : List Node) {seen : Array Node} (h : seen.size ≤ k) :
    (ns.forM (keep (some k))).run.run seen =
      if k < seen.size + ns.length then (.error (), seen ++ (ns.take (k - seen.size)).toArray)
      else (.ok (), seen ++ ns.toArray) := by
  induction ns generalizing seen with
  | nil =>
      rw [if_neg (by simpa using h), Array.append_empty]
      rfl
  | cons n ns ih =>
      rw [run_forM_keep_cons, List.length_cons]
      by_cases hk : k = seen.size
      · -- The record is as long as it may become before its first node.
        rw [if_pos (by rw [hk]), if_pos (by omega)]
        simp [hk]
      · rw [if_neg (by simpa using hk), ih (by rw [Array.size_push]; omega), Array.size_push]
        have hroom : k - seen.size = k - (seen.size + 1) + 1 := by omega
        have hlength : seen.size + 1 + ns.length = seen.size + (ns.length + 1) := by omega
        rw [hroom, List.take_succ_cons, hlength]
        simp

/-- Without a limit the events are the record. -/
theorem record_of_none {r : Recorder} (h : r.failAt = none) (o : Outline) :
    r.record o = ((r.events o).toArray, false) := by
  rw [record, traverse_enter, h, run_forM_keep_none]
  simp

/-- A limit cuts the record off and makes the traversal fail, unless it is never
    reached. -/
theorem record_of_some {r : Recorder} {k : Nat} (h : r.failAt = some k) (o : Outline) :
    r.record o =
      if k < (r.events o).length then (((r.events o).take k).toArray, true)
      else ((r.events o).toArray, false) := by
  have hempty : (#[] : Array Node).size ≤ k := Nat.zero_le k
  rw [record, traverse_enter, h, run_forM_keep_some _ hempty]
  by_cases hk : k < (r.events o).length
  · rw [if_pos (by simpa using hk), if_pos hk]
    simp
  · rw [if_neg (by simpa using hk), if_neg hk]
    simp

/-- The events are the nodes that the visitor handles, save those below a node
    that it handles and prunes. -/
theorem events_eq (r : Recorder) (o : Outline) :
    r.events o =
      ((o.occurrences []).filter
        (fun x => r.handles x.node && x.ancestors.all r.opens)).map Occurrence.node := by
  have hentered := filter_occurrences r.opens o []
  rw [List.all_nil, if_pos rfl] at hentered
  rw [events, ← hentered, List.filter_map, List.filter_filter]
  rfl

theorem events_full (o : Outline) : full.events o = o.preorder := by
  have hopens : full.opens = fun _ => true := rfl
  have hhandles : full.handles = fun _ => true := rfl
  rw [events, hopens, hhandles, entered_true, List.filter_true]

/-- What a visitor records is cut out of the full record. It is, in the order of
    the full record, the nodes whose methods it overrides, save those with a node
    above them whose method it overrides and which it prunes. The full record in
    turn is the pre-order of the tree: a node, and then the full records of the
    nodes directly below it in the order of its fields. -/
theorem record_cut_from_full (methods : NodeKind → Bool) (prunes : Node → Bool) (n : Node) :
    ((overriding methods prunes none).record n.outline).1.toList =
      ((n.outline.occurrences []).filter (fun x => methods x.node.kind &&
        x.ancestors.all (fun a => !(methods a.kind && prunes a)))).map Occurrence.node ∧
    (full.record n.outline).1.toList = (n.outline.occurrences []).map Occurrence.node ∧
    (full.record n.outline).1.toList =
      n :: n.children.flatMap (fun c => (full.record c.outline).1.toList) := by
  have hfull : ∀ m : Node, (full.record m.outline).1.toList = m.outline.preorder := by
    intro m
    rw [record_of_none rfl, events_full]
  refine ⟨?_, ?_, ?_⟩
  · rw [record_of_none rfl, events_eq]
    rfl
  · rw [hfull, map_node_occurrences]
  · simp only [hfull]
    rw [n.outline_eq, preorder, preorderAll_eq_flatMap, List.flatMap_map]

/-- A visitor that fails on its event number `k + 1` fails exactly if the visitor
    that never fails has more than `k` events, and has then recorded the first `k`
    of them. Otherwise it records what the other one records. -/
theorem record_stopped (methods : NodeKind → Bool) (prunes : Node → Bool) (k : Nat) (n : Node) :
    ((overriding methods prunes none).record n.outline).2 = false ∧
    (overriding methods prunes (some k)).record n.outline =
      if k < ((overriding methods prunes none).record n.outline).1.size then
        (((overriding methods prunes none).record n.outline).1.take k, true)
      else
        (((overriding methods prunes none).record n.outline).1, false) := by
  have hevents : (overriding methods prunes (some k)).events n.outline =
      (overriding methods prunes none).events n.outline := rfl
  rw [record_of_none rfl, record_of_some rfl, hevents]
  simp

end Recorder

end JavaSource
