import JavaSource.Imports
import JavaSource.Proofs.EveryDepth
import JavaSource.Proofs.Occurrence
import Mathlib.Data.List.TakeWhile

/-!
# What One Pass Collects

The collection of names is a traversal that goes on below every node, so it is
one pass over the nodes in order. It ends in one of two ways: all nodes were
met, or one of them stopped it. Either way the names it leaves are those of the
references it got to, and nothing else (`value_visit`, `mem_names_meetAll`).
That holds of any outline.

Of an outline whose nodes obey the rules more can be said. There is then one
reason only to stop, since a try statement that is not sample code catches into
a variable, and so the nodes that stop the pass are the sample code
(`Node.WellFormed.misuse_eq`).

The names of nested classes and those of top-level classes are kept apart but
treated alike; `names` takes the kind as an argument, so that each lemma is
said once.

## Main definitions

* `Imports.External`: A class in a package that the sources do not see.
* `Imports.names`: The collected names of nested or of top-level classes.
* `Imports.meet`: What meeting a node does to the collected names.
* `Node.misuse`: Why a node stops the collection, if it does.

## Theorems

* `Imports.value_visit`: A pass meets the nodes in order up to the first that
  stops it.
* `Imports.mem_names_meetAll`: The names after meeting some nodes.
* `Node.WellFormed.misuse_eq`: Only sample code stops the collection.
* `Imports.value_visit_cases`: A built tree is met whole, or up to its first
  piece of sample code.
* `Imports.visit_collects_mentioned`: A tree without sample code contributes the
  names of all external classes mentioned in it, and nothing else.
* `Imports.visit_rejects_samples`: A pass fails exactly on sample code, and
  leaves the names from before it.
-/

namespace JavaSource

/-- Why a node stops the collection of names, if it does. -/
def Node.misuse : Node → Option Misuse
  | stmt s => Imports.misuse s
  | _ => none

namespace Imports

/-! ### Names -/

/-- The class is in a named package, and the sources see that package neither
    as their own nor implicitly. -/
structure External (i : Imports) (r : Reference) : Prop where
  named : r.package ≠ ""
  foreign : r.package ≠ i.package
  unseen : r.package ∉ i.implicitPackages

/-- The collected names: of nested classes, or of top-level ones. -/
def names (i : Imports) (nested : Bool) : List String :=
  if nested then i.statics else i.plains

/-- What meeting a node does to the collected names. -/
def meet (i : Imports) : Node → Imports
  | .reference r => i.add r
  | _ => i

/-- What meeting several nodes does, one after the other. -/
def meetAll (i : Imports) (ns : List Node) : Imports :=
  ns.foldl meet i

variable {a : String} {nested : Bool} {r : Reference} {n : Node} {i : Imports}

theorem needs_iff : i.needs r = true ↔ i.External r := by
  have hsplit : i.needs r = true ↔
      r.package ≠ "" ∧ r.package ≠ i.package ∧ r.package ∉ i.implicitPackages := by
    simp only [needs, Bool.and_eq_true, Bool.not_eq_true', bne_iff_ne, and_assoc,
      List.contains_eq_mem, decide_eq_false_iff_not, ne_eq, ← String.isEmpty_iff,
      Bool.not_eq_true]
  rw [hsplit]
  exact ⟨fun ⟨hn, hf, hu⟩ => ⟨hn, hf, hu⟩, fun ⟨hn, hf, hu⟩ => ⟨hn, hf, hu⟩⟩

@[simp]
theorem package_add : (i.add r).package = i.package := by
  unfold add
  split
  · rfl
  · split <;> rfl

@[simp]
theorem implicitPackages_add : (i.add r).implicitPackages = i.implicitPackages := by
  unfold add
  split
  · rfl
  · split <;> rfl

/-- The names of the other kind stay as they are. -/
theorem names_add :
    (i.add r).names nested =
      if i.needs r = true ∧ r.isNested = nested then insertName r.fullName (i.names nested)
      else i.names nested := by
  unfold add names
  cases hneeds : i.needs r with
  | false => simp only [Bool.not_false, if_true, Bool.false_eq_true, false_and, if_false]
  | true => cases r.isNested <;> cases nested <;> simp

/-- Collecting a class adds its name to the names of its kind, provided that
    the class is external. -/
theorem mem_names_add :
    a ∈ (i.add r).names nested ↔
      a ∈ i.names nested ∨ i.External r ∧ r.isNested = nested ∧ a = r.fullName := by
  rw [names_add, ← needs_iff]
  by_cases h : i.needs r = true ∧ r.isNested = nested
  · rw [if_pos h, mem_insertName, or_comm]
    simp only [h.1, h.2, true_and]
  · rw [if_neg h, ← and_assoc]
    simp only [h, false_and, or_false]

@[simp]
theorem package_meet : (i.meet n).package = i.package := by
  cases n with
  | reference r => exact package_add
  | _ => rfl

@[simp]
theorem implicitPackages_meet : (i.meet n).implicitPackages = i.implicitPackages := by
  cases n with
  | reference r => exact implicitPackages_add
  | _ => rfl

/-- Whether a class is external does not depend on the names collected so far. -/
theorem external_congr {j : Imports} (hp : i.package = j.package)
    (hi : i.implicitPackages = j.implicitPackages) : i.External r ↔ j.External r := by
  rw [← needs_iff, ← needs_iff, needs, needs, hp, hi]

theorem external_meet : (i.meet n).External r ↔ i.External r :=
  external_congr package_meet implicitPackages_meet

theorem mem_names_meet :
    a ∈ (i.meet n).names nested ↔
      a ∈ i.names nested ∨
        ∃ r, n = .reference r ∧ i.External r ∧ r.isNested = nested ∧ a = r.fullName := by
  cases n with
  | reference s =>
      rw [meet, mem_names_add]
      simp only [Node.reference.injEq, exists_eq_left']
  | _ => simp only [meet, reduceCtorEq, false_and, exists_false, or_false]

/-- The names after meeting some nodes are those from before and those of the
    external classes among the nodes. -/
theorem mem_names_meetAll {ns : List Node} :
    a ∈ (i.meetAll ns).names nested ↔
      a ∈ i.names nested ∨
        ∃ r, .reference r ∈ ns ∧ i.External r ∧ r.isNested = nested ∧ a = r.fullName := by
  induction ns generalizing i with
  | nil => simp only [meetAll, List.foldl_nil, List.not_mem_nil, false_and, exists_false, or_false]
  | cons m ns ih =>
      have hstep : i.meetAll (m :: ns) = (i.meet m).meetAll ns := rfl
      rw [hstep, ih, mem_names_meet, or_assoc, ← exists_or]
      -- What is external after the first node was so before it.
      simp only [external_meet, List.mem_cons, or_and_right, eq_comm]

/-! ### One pass -/

/-- What the collection does at a node, apart from going on below it. -/
def act (n : Node) : Collect Unit := do
  let _ ← enter n
  pure ()

/-- How a pass ends that was stopped for a reason, or not at all. -/
def ending : Option Misuse → Except NodeError Unit
  | some reason => .error (.misuse .tryCatch reason)
  | none => .ok ()

/-- The nodes that a pass meets without being stopped. -/
def passed (ns : List Node) : List Node :=
  ns.takeWhile (fun n => n.misuse.isNone)

/-- The collection goes on below every node that does not stop it. -/
theorem enter_eq_act (n : Node) : enter n = (do act n; pure true) := by
  unfold act
  rw [bind_assoc]
  cases n with
  | reference r => simp only [enter, bind_assoc, pure_bind]
  | stmt s =>
      rw [enter]
      split
      · -- Nothing that would follow a failure is done.
        simp only [bind_assoc]
        rfl
      · rfl
  | _ => rfl

/-- A node either stops the collection or is met, never both. -/
theorem value_act (i : Imports) (n : Node) :
    ((act n).run.run i).value = (ending n.misuse, i.meet n) := by
  cases n with
  | stmt s =>
      rw [act, enter, Node.misuse]
      cases misuse s with
      | some reason => rfl
      | none => rfl
  | _ => rfl

/-- The second of two steps of the collection starts from the names that the
    first one leaves, unless that one fails. -/
theorem value_seq (x y : Collect Unit) (i : Imports) :
    ((do x; y : Collect Unit).run.run i).value =
      match (x.run.run i).value with
      | (.ok (), j) => (y.run.run j).value
      | (.error e, j) => (.error e, j) := by
  simp only [ExceptT.run_bind, StateT.run_bind, Logged.value_bind]
  rcases (x.run.run i).value with ⟨_ | _, j⟩
  · rfl
  · rfl

/-- A pass ends for the reason that the first node gives which gives any, and
    meets the nodes before that one. -/
theorem value_forM_act (i : Imports) (ns : List Node) :
    ((ns.forM act).run.run i).value =
      (ending (ns.findSome? Node.misuse), i.meetAll (passed ns)) := by
  induction ns generalizing i with
  | nil => rfl
  | cons n ns ih =>
      -- The state is generalized: the rest of the pass starts where the first node left it.
      have hfirst : (n :: ns).forM act = (do act n; ns.forM act) := rfl
      rw [hfirst, value_seq, value_act, List.findSome?_cons, passed]
      cases h : n.misuse with
      | some reason =>
          -- A node that stops the pass is no reference: meeting it changes nothing.
          have hmeet : i.meet n = i := by
            cases n with
            | reference r => exact absurd h nofun
            | _ => rfl
          rw [List.takeWhile_cons_of_neg (by simp only [h, Option.isNone_some, Bool.false_eq_true,
            not_false_iff]), hmeet]
          rfl
      | none =>
          rw [List.takeWhile_cons_of_pos (by rw [h]; rfl)]
          exact ih (i.meet n)

theorem value_visit (i : Imports) (o : Outline) :
    (i.visit o).value =
      (ending (o.preorder.findSome? Node.misuse), i.meetAll (passed o.preorder)) := by
  rw [visit, Outline.traverse_eq_forM enter_eq_act]
  exact value_forM_act i o.preorder

/-- Nodes that do not stop a pass are all met. -/
theorem value_visit_of_passable {o : Outline} (h : ∀ m ∈ o.preorder, m.misuse = none) :
    (i.visit o).value = (.ok (), i.meetAll o.preorder) := by
  have hpassed : passed o.preorder = o.preorder := by
    refine List.takeWhile_eq_self_iff.mpr (fun m hm => ?_)
    rw [h m hm]
    rfl
  rw [value_visit, List.findSome?_eq_none_iff.mpr h, hpassed]
  rfl

/-- Of the nodes from the first one on that stops a pass, none is met. -/
theorem value_visit_of_stop {o : Outline} {before after : List Node} {m : Node} {reason : Misuse}
    (ho : o.preorder = before ++ m :: after) (hbefore : ∀ b ∈ before, b.misuse = none)
    (hm : m.misuse = some reason) :
    (i.visit o).value = (.error (.misuse .tryCatch reason), i.meetAll before) := by
  have hpassed : passed o.preorder = before := by
    rw [ho, passed, List.takeWhile_append_of_pos, List.takeWhile_cons_of_neg, List.append_nil]
    · rw [hm]
      exact Bool.false_ne_true
    · intro b hb
      rw [hbefore b hb]
      rfl
  have hreason : o.preorder.findSome? Node.misuse = some reason :=
    List.findSome?_eq_some_iff.mpr ⟨before, m, after, ho, hm, hbefore⟩
  rw [value_visit, hreason, hpassed]
  rfl

end Imports

/-! ### Nodes that obey the rules -/

/-- Sample code is all that stops the collection: another try statement has a
    variable to catch into. -/
theorem Node.WellFormed.misuse_eq {n : Node} (hn : n.WellFormed) :
    n.misuse = if n.isSample then some .sampleCode else none := by
  cases n with
  | stmt s =>
      cases hn with
      | @tryCatch _ _ v _ isSample _ _ _ hcaught _ =>
          cases isSample with
          | true => rfl
          | false =>
              -- The other reason to stop is a variable that the rules require.
              have hv : v.isNone = false := by
                rw [← Option.not_isSome, hcaught rfl]
                rfl
              simp only [misuse, Imports.misuse, isSample, hv, Bool.false_eq_true, if_false]
      | _ => rfl
  | _ => rfl

theorem Node.WellFormed.misuse_eq_none_iff {n : Node} (hn : n.WellFormed) :
    n.misuse = none ↔ n.isSample = false := by
  rw [hn.misuse_eq]
  cases n.isSample <;> simp

theorem Node.WellFormed.misuse_eq_some_iff {n : Node} {reason : Misuse} (hn : n.WellFormed) :
    n.misuse = some reason ↔ n.isSample = true ∧ reason = .sampleCode := by
  rw [hn.misuse_eq]
  cases n.isSample <;> simp [eq_comm]

namespace Imports

variable {a : String} {i : Imports} {ns : List Node}

theorem mem_statics_meetAll :
    a ∈ (i.meetAll ns).statics ↔
      a ∈ i.statics ∨
        ∃ r, .reference r ∈ ns ∧ i.External r ∧ r.enclosing ≠ [] ∧ a = r.fullName := by
  have hnested : ∀ r : Reference, r.isNested = true ↔ r.enclosing ≠ [] := by
    intro r
    rw [Reference.isNested, Bool.not_eq_true', ne_eq, ← List.isEmpty_iff, Bool.not_eq_true]
  have hnames : a ∈ (i.meetAll ns).names true ↔ _ := mem_names_meetAll
  simp only [hnested] at hnames
  exact hnames

theorem mem_plains_meetAll :
    a ∈ (i.meetAll ns).plains ↔
      a ∈ i.plains ∨
        ∃ r, .reference r ∈ ns ∧ i.External r ∧ r.enclosing = [] ∧ a = r.fullName := by
  have htop : ∀ r : Reference, r.isNested = false ↔ r.enclosing = [] := by
    intro r
    rw [Reference.isNested, Bool.not_eq_false', List.isEmpty_iff]
  have hnames : a ∈ (i.meetAll ns).names false ↔ _ := mem_names_meetAll
  simp only [htop] at hnames
  exact hnames

/-- A built tree is met whole, or it splits at its first piece of sample code and
    is met up to there. -/
theorem value_visit_cases {n : Node} (hn : n.Built) (i : Imports) :
    (¬ n.HasSample ∧ (i.visit n.outline).value = (.ok (), i.meetAll n.outline.preorder)) ∨
    ∃ before sample after, n.HasSample ∧ n.outline.preorder = before ++ sample :: after ∧
      sample.isSample = true ∧ (∀ m ∈ before, m.isSample = false) ∧
      (i.visit n.outline).value = (.error (.misuse .tryCatch .sampleCode), i.meetAll before) := by
  have hrules : ∀ m ∈ n.outline.preorder, m.WellFormed :=
    fun m hm => hn.wellFormed.of_mem_preorder hm
  cases hstop : n.outline.preorder.findSome? Node.misuse with
  | none =>
      have hpassable := List.findSome?_eq_none_iff.mp hstop
      refine Or.inl ⟨?_, value_visit_of_passable hpassable⟩
      rw [← n.exists_isSample_iff]
      rintro ⟨m, hm, hsample⟩
      rw [(hrules m hm).misuse_eq_none_iff.mp (hpassable m hm)] at hsample
      exact Bool.false_ne_true hsample
  | some reason =>
      rcases List.findSome?_eq_some_iff.mp hstop with ⟨before, m, after, ho, hm, hbefore⟩
      have hmem : m ∈ n.outline.preorder := by
        rw [ho]
        exact List.mem_append_cons_self
      have hclear : ∀ b ∈ before, b.isSample = false := by
        intro b hb
        have hb' : b ∈ n.outline.preorder := by
          rw [ho]
          exact List.mem_append_left _ hb
        exact (hrules b hb').misuse_eq_none_iff.mp (hbefore b hb)
      -- The rules leave the node that stops the pass no other reason.
      rcases (hrules m hmem).misuse_eq_some_iff.mp hm with ⟨hsample, rfl⟩
      exact Or.inr ⟨before, m, after, n.exists_isSample_iff.mp ⟨m, hmem, hsample⟩, ho, hsample,
        hclear, value_visit_of_stop ho hbefore hm⟩

/-- Collecting the names of a tree without sample code succeeds, whatever was
    collected before. It adds the names of the external classes mentioned in
    the tree, those of nested classes to the static imports and those of
    top-level classes to the others. -/
theorem visit_collects_mentioned {n : Node} (hn : n.Built) (hsample : ¬ n.HasSample)
    (i : Imports) :
    ∃ j, (i.visit n.outline).value = (.ok (), j) ∧
      (∀ a, a ∈ j.statics ↔
        a ∈ i.statics ∨ ∃ r, n.Mentions r ∧ i.External r ∧ r.enclosing ≠ [] ∧ a = r.fullName) ∧
      (∀ a, a ∈ j.plains ↔
        a ∈ i.plains ∨ ∃ r, n.Mentions r ∧ i.External r ∧ r.enclosing = [] ∧ a = r.fullName) := by
  rcases value_visit_cases hn i with ⟨_, hvalue⟩ | ⟨_, _, _, h, _⟩
  · -- All nodes were met, and the references among them are those mentioned.
    refine ⟨i.meetAll n.outline.preorder, hvalue, fun a => ?_, fun a => ?_⟩
    · rw [mem_statics_meetAll]
      simp only [n.reference_mem_preorder]
    · rw [mem_plains_meetAll]
      simp only [n.reference_mem_preorder]
  · exact absurd h hsample

/-- The collection succeeds on a class that has a try statement in a loop in a
    nested class, but no sample code. -/
theorem visit_collects_shelf :
    ∃ c, (ClassDraft.shelf false).build.outcome = .ok c ∧ ¬ (Node.classDecl c).HasSample ∧
      ∃ j, ((empty "org.shelf" ["java.lang"]).visit (Node.classDecl c).outline).value =
          (.ok (), j) ∧
        (∀ a, a ∈ j.statics ↔ a ∈ [] ∨ ∃ r, (Node.classDecl c).Mentions r ∧
          (empty "org.shelf" ["java.lang"]).External r ∧ r.enclosing ≠ [] ∧ a = r.fullName) ∧
        (∀ a, a ∈ j.plains ↔ a ∈ [] ∨ ∃ r, (Node.classDecl c).Mentions r ∧
          (empty "org.shelf" ["java.lang"]).External r ∧ r.enclosing = [] ∧ a = r.fullName) := by
  have hshelf : ∃ c, (ClassDraft.shelf false).build.outcome = .ok c ∧
      ¬ (Node.classDecl c).HasSample := ⟨_, rfl, by decide⟩
  rcases hshelf with ⟨c, hc, hsample⟩
  have hbuilt : (Node.classDecl c).Built := .classDecl (ClassDraft.built_of_build _ hc)
  exact ⟨c, hc, hsample, visit_collects_mentioned hbuilt hsample _⟩

/-- Collecting the names of a tree fails exactly if there is sample code in it.
    The error is the same each time. The names collected before the failure
    stay: they are those of the nodes that come before the first piece of
    sample code, and none of it or of what follows it. -/
theorem visit_rejects_samples {n : Node} (hn : n.Built) (i : Imports) :
    ((∃ e, (i.visit n.outline).value.1 = .error e) ↔ n.HasSample) ∧
    ∀ e j, (i.visit n.outline).value = (.error e, j) →
      e = .misuse .tryCatch .sampleCode ∧
      e.message = "ImportWriterVisitor cannot visit TryCatchStatement: " ++
        "sample code is not resolved for imports" ∧
      ∃ before sample after, n.outline.preorder = before ++ sample :: after ∧
        sample.isSample = true ∧ (∀ m ∈ before, m.isSample = false) ∧
        (∀ a, a ∈ j.statics ↔ a ∈ i.statics ∨
          ∃ r, .reference r ∈ before ∧ i.External r ∧ r.enclosing ≠ [] ∧ a = r.fullName) ∧
        (∀ a, a ∈ j.plains ↔ a ∈ i.plains ∨
          ∃ r, .reference r ∈ before ∧ i.External r ∧ r.enclosing = [] ∧ a = r.fullName) := by
  rcases value_visit_cases hn i with
    ⟨hnone, hvalue⟩ | ⟨before, sample, after, h, ho, hsample, hbefore, hvalue⟩
  · rw [hvalue]
    refine ⟨⟨fun ⟨e, he⟩ => absurd he nofun, fun h => absurd h hnone⟩, ?_⟩
    intro e j hfailed
    exact absurd (Prod.mk.inj hfailed).1 nofun
  · rw [hvalue]
    refine ⟨⟨fun _ => h, fun _ => ⟨_, rfl⟩⟩, ?_⟩
    rintro e j ⟨⟩
    exact ⟨rfl, rfl, before, sample, after, ho, hsample, hbefore,
      fun a => mem_statics_meetAll, fun a => mem_plains_meetAll⟩

/-- The collection fails on a class that has sample code in a loop in a nested
    class, also if names were collected before. -/
theorem visit_rejects_shelf :
    ∃ c, (ClassDraft.shelf true).build.outcome = .ok c ∧ (Node.classDecl c).HasSample ∧
      ∃ e j, ((⟨"org.shelf", [], ["a.B.C"], ["a.B"]⟩ : Imports).visit
          (Node.classDecl c).outline).value = (.error e, j) ∧
        e = .misuse .tryCatch .sampleCode := by
  have hshelf : ∃ c, (ClassDraft.shelf true).build.outcome = .ok c ∧
      (Node.classDecl c).HasSample := ⟨_, rfl, by decide⟩
  rcases hshelf with ⟨c, hc, hsample⟩
  have hbuilt : (Node.classDecl c).Built := .classDecl (ClassDraft.built_of_build _ hc)
  rcases visit_rejects_samples hbuilt ⟨"org.shelf", [], ["a.B.C"], ["a.B"]⟩ with ⟨hfails, herror⟩
  rcases hfails.mpr hsample with ⟨e, he⟩
  exact ⟨c, hc, hsample, e, _, Prod.ext he rfl, (herror e _ (Prod.ext he rfl)).1⟩

end Imports

end JavaSource
