import JavaSource.Proofs.ImportPass
import JavaSource.Proofs.Recording

/-!
# What One Pass Reports

The sets of names that a pass leaves say nothing about the order in which the
references were met, nor how often. The log does. This module compares it with
the record of a visitor that knows nothing of imports: it handles references and
try statements, keeps what it enters, and never stops.

The two visitors take different ways through the program, and one of them is
stopped where the other goes on. Both are passes over the same list of nodes,
though. So the comparison is one of lists: the log of a pass is read off the
nodes that it passes (`events_visit`), the record is cut out of all nodes, and
since the record keeps every node that can stop a pass, cutting it off at the
first such node cuts the list of nodes off at the same place
(`Recorder.events_watcher`).

What is reported about a reference depends on the packages alone. That a name
has been collected before does not show in the log.

## Main definitions

* `Log.Entry`: What a log says about an event.
* `Imports.verdict`: What is to be said about a reference.
* `Recorder.watcher`: The visitor that handles references and try statements.

## Theorems

* `Imports.events_forM_act`: What a pass over some nodes reports.
* `Imports.events_visit`: What a pass over an outline reports.
* `Imports.entry_addEvent`: The report about a reference tells its name and the
  verdict on it.
* `Imports.visit_reports_record`: The log of a pass agrees with the record of
  the visitor up to the first piece of sample code.
-/

namespace JavaSource

namespace Log

/-- What a log says about an event. -/
structure Entry where
  level : Level
  target : String
  message : String
  fields : List (String × Value)
deriving DecidableEq, Repr

def Event.entry (e : Event) : Entry :=
  ⟨e.level, e.target, e.message, e.fields⟩

end Log

/-- The reference that a node is, if it is one. -/
def Node.reference? : Node → Option Reference
  | reference r => some r
  | _ => none

namespace Imports

variable {i : Imports}

instance (r : Reference) : Decidable (i.External r) :=
  decidable_of_iff _ needs_iff

/-- What is to be said about a reference: whether the sources see its package,
    and which import it needs if they do not. -/
def verdict (i : Imports) (r : Reference) : String :=
  if ¬ i.External r then "implicitly visible, dropped"
  else if r.enclosing ≠ [] then "static import"
  else "import"

theorem entry_addEvent (i : Imports) (r : Reference) :
    (i.addEvent r).entry = ⟨.trace, "jgen.writer", i.verdict r, [("name", .text r.fullName)]⟩ := by
  unfold addEvent verdict
  by_cases hexternal : i.External r
  · have hneeds : i.needs r = true := needs_iff.mpr hexternal
    rw [hneeds, if_neg (by decide), if_neg (not_not_intro hexternal)]
    -- An enclosing type is what makes a reference nested.
    cases henclosing : r.enclosing with
    | nil =>
        have hnested : r.isNested = false := by rw [Reference.isNested, henclosing]; rfl
        rw [hnested]
        rfl
    | cons outer rest =>
        have hnested : r.isNested = true := by rw [Reference.isNested, henclosing]; rfl
        rw [hnested]
        rfl
  · have hneeds : i.needs r = false := by
      rw [← Bool.not_eq_true, needs_iff]
      exact hexternal
    rw [hneeds, if_pos hexternal]
    rfl

/-! ### The log of a pass -/

/-- Meeting a node does not change what is said about references later on. -/
theorem addEvent_meet (n : Node) : (i.meet n).addEvent = i.addEvent := by
  funext r
  have hneeds : (i.meet n).needs r = i.needs r := by
    rw [Bool.eq_iff_iff, needs_iff, needs_iff, external_meet]
  rw [addEvent, addEvent, hneeds]

theorem events_act (i : Imports) (n : Node) :
    ((act n).run.run i).events =
      n.reference?.toList.map i.addEvent ++
        n.misuse.toList.map (fun reason => .tryCatchRejected reason.message) := by
  cases n with
  | stmt s =>
      rw [act, enter, Node.misuse]
      cases misuse s with
      | some reason => rfl
      | none => rfl
  | _ => rfl

/-- The second of two steps reports after the first one, unless that one fails. -/
theorem events_seq (x y : Collect Unit) (i : Imports) :
    ((do x; y : Collect Unit).run.run i).events =
      (x.run.run i).events ++
        match (x.run.run i).value with
        | (.ok (), j) => (y.run.run j).events
        | (.error _, _) => [] := by
  simp only [ExceptT.run_bind, StateT.run_bind, Logged.events_bind]
  rcases (x.run.run i).value with ⟨_ | _, j⟩
  · rfl
  · rfl

/-- A pass reports the references among the nodes that it passes, one by one, and
    then the reason for which it is stopped, if it is. -/
theorem events_forM_act (i : Imports) (ns : List Node) :
    ((ns.forM act).run.run i).events =
      ((passed ns).filterMap Node.reference?).map i.addEvent ++
        (ns.findSome? Node.misuse).toList.map (fun reason => .tryCatchRejected reason.message) := by
  induction ns generalizing i with
  | nil => rfl
  | cons n ns ih =>
      have hfirst : (n :: ns).forM act = (do act n; ns.forM act) := rfl
      rw [hfirst, events_seq, value_act, events_act, List.findSome?_cons, passed]
      cases hstop : n.misuse with
      | some reason =>
          -- Only a statement stops a pass, so there is no reference to report.
          have hreference : n.reference? = none := by
            cases n with
            | reference r => exact absurd hstop (by simp [Node.misuse])
            | _ => rfl
          rw [List.takeWhile_cons_of_neg (by simp [hstop]), hreference]
          rfl
      | none =>
          rw [List.takeWhile_cons_of_pos (by simp [hstop])]
          -- The rest of the pass starts from other names, but reports alike.
          have hrest : ((ns.forM act).run.run (i.meet n)).events =
              ((passed ns).filterMap Node.reference?).map i.addEvent ++
                (ns.findSome? Node.misuse).toList.map
                  (fun reason => .tryCatchRejected reason.message) := by
            rw [ih, addEvent_meet]
          simp only [ending, hrest, Option.toList_none, List.map_nil, List.append_nil]
          cases hreference : n.reference? with
          | none =>
              rw [List.filterMap_cons_none hreference]
              rfl
          | some r =>
              rw [List.filterMap_cons_some hreference]
              rfl

theorem events_visit (i : Imports) (o : Outline) :
    (i.visit o).events =
      ((passed o.preorder).filterMap Node.reference?).map i.addEvent ++
        (o.preorder.findSome? Node.misuse).toList.map
          (fun reason => .tryCatchRejected reason.message) := by
  rw [visit, Outline.traverse_eq_forM enter_eq_act]
  exact events_forM_act i o.preorder

/-- Among nodes that obey the rules, a pass gets to the first piece of sample
    code. -/
theorem passed_eq_takeWhile {ns : List Node} (h : ∀ n ∈ ns, n.WellFormed) :
    passed ns = ns.takeWhile (fun n => !n.isSample) := by
  unfold passed
  induction ns with
  | nil => rfl
  | cons n ns ih =>
      rw [List.forall_mem_cons] at h
      have hnone : n.misuse.isNone = !n.isSample := by
        rw [h.1.misuse_eq]
        cases n.isSample <;> rfl
      rw [List.takeWhile_cons, List.takeWhile_cons, hnone, ih h.2]

end Imports

/-! ### The record of the same nodes -/

namespace Recorder

/-- The visitor that overrides the methods for references and for try statements,
    and goes on below both. -/
def watcher : Recorder :=
  overriding (fun kind => kind == .reference || kind == .tryCatch) (fun _ => false) none

theorem watcher_handles_sample {n : Node} (h : n.isSample = true) : watcher.handles n = true := by
  cases n with
  | stmt s =>
      cases s with
      | tryCatch resource body v catchBody isSample => rfl
      | _ => cases h
  | _ => cases h

/-- The references on record before the first piece of sample code are those
    among all nodes before it: what ends the one list ends the other. -/
theorem events_watcher (o : Outline) :
    ((watcher.events o).takeWhile (fun n => !n.isSample)).filterMap Node.reference? =
      (o.preorder.takeWhile (fun n => !n.isSample)).filterMap Node.reference? := by
  have hopens : watcher.opens = fun _ => true := by
    funext n
    exact congrArg (!·) (Bool.and_false _)
  have hstops : ∀ n : Node, (!watcher.handles n || !n.isSample) = !n.isSample := by
    intro n
    cases hsample : n.isSample with
    | true =>
        rw [watcher_handles_sample hsample]
        rfl
    | false => exact Bool.or_true _
  -- A node that is not on record is no reference.
  have hkept : ∀ n : Node, (if watcher.handles n = true then n.reference? else none) =
      n.reference? := by
    intro n
    cases n with
    | reference r => rfl
    | _ => exact ite_self none
  rw [events, hopens, Outline.entered_true, List.takeWhile_filter, List.filterMap_filter]
  simp only [hstops, hkept]

end Recorder

namespace Imports

/-- The log of a pass agrees with the record that a visitor makes of the same
    node if it handles references and try statements and goes on below both.
    There is one report for each reference on record before the first piece of
    sample code, in the order of the record and as often as it stands there; it
    tells the name of the reference and whether it is dropped, imported
    statically or imported, whatever has been collected before. One more report
    follows if the pass fails, and none if it succeeds. -/
theorem visit_reports_record {n : Node} (hn : n.Built) (i : Imports) :
    (i.visit n.outline).events.map Log.Event.entry =
      (((Recorder.watcher.record n.outline).1.toList.takeWhile
          (fun m => !m.isSample)).filterMap Node.reference?).map
        (fun r => ⟨.trace, "jgen.writer", i.verdict r, [("name", .text r.fullName)]⟩) ++
      match (i.visit n.outline).value.1 with
      | .ok () => []
      | .error _ =>
        [⟨.debug, "jgen.writer", "rejecting try/catch statement",
          [("reason", .quoted "sample code is not resolved for imports")]⟩] := by
  have hrules : ∀ m ∈ n.outline.preorder, m.WellFormed :=
    fun m hm => hn.wellFormed.of_mem_preorder hm
  rw [events_visit, value_visit, Recorder.record_of_none rfl, Recorder.events_watcher,
    passed_eq_takeWhile hrules, List.map_append, List.map_map]
  congr 1
  · refine List.map_congr_left (fun r _ => ?_)
    exact entry_addEvent i r
  · cases hstop : n.outline.preorder.findSome? Node.misuse with
    | none => rfl
    | some reason =>
        -- The rules leave the node that stops the pass one reason only.
        rcases List.findSome?_eq_some_iff.mp hstop with ⟨before, m, after, ho, hm, _⟩
        have hmem : m ∈ n.outline.preorder := by
          rw [ho]
          exact List.mem_append_cons_self
        rcases (hrules m hmem).misuse_eq_some_iff.mp hm with ⟨_, rfl⟩
        rfl

/-- The log of a class with sample code in a loop in a nested class, for sources
    that have collected one of the names before. A name that is mentioned three
    times is reported three times, and nothing after the sample code is. -/
theorem visit_reports_shelf :
    let start : Imports := ⟨"org.shelf", ["java.lang"], [], ["org.book.Book"]⟩
    let report := fun (message name : String) =>
      (⟨.trace, "jgen.writer", message, [("name", .text name)]⟩ : Log.Entry)
    ∃ c, (ClassDraft.shelf true).build.outcome = .ok c ∧
      (start.visit (Node.classDecl c).outline).events.map Log.Event.entry =
        [report "implicitly visible, dropped" "java.lang.Deprecated",
          report "import" "java.util.List", report "import" "org.book.Book",
          report "static import" "java.util.Map.Entry",
          report "implicitly visible, dropped" "java.lang.Override",
          report "import" "java.io.IOException", report "import" "org.book.Books",
          report "import" "org.book.Book", report "import" "org.book.Book",
          ⟨.debug, "jgen.writer", "rejecting try/catch statement",
            [("reason", .quoted "sample code is not resolved for imports")]⟩] := by
  intro start report
  refine ⟨_, rfl, ?_⟩
  have hbuilt := Node.Built.classDecl (ClassDraft.built_of_build (ClassDraft.shelf true) rfl)
  exact (visit_reports_record hbuilt start).trans (by decide +kernel)

end Imports

end JavaSource
