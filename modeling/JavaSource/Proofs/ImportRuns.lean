import JavaSource.Proofs.ImportPass
import Mathlib.Data.List.Sort
import Mathlib.Data.String.Basic

/-!
# Runs of the Collection

Collected names are used for source after source: outlines are visited, some of
them without success, and now and then all names are forgotten. This module says
what such a run leaves.

The run is followed by the list of the outlines visited since the names were
last forgotten (`sinceClear`), and one invariant relates the two: the names are
in ascending order, and they are those that the outlines in the list contribute
(`Reflects`). What an outline contributes depends on the packages alone, not on
the names that are there already, so it does not matter when it was visited or
how often. Ascending names are determined by which names they are; hence the
whole state is, and the text of the imports with it.

## Main definitions

* `Imports.run`: The state after some uses.
* `Imports.sinceClear`: The outlines visited since the names were forgotten.
* `Imports.Contributes`: A name is one that visiting an outline adds.
* `Imports.Reflects`: The names are what some outlines contribute.

## Theorems

* `pairwise_insertName`: Adding a name keeps names ascending.
* `Imports.Reflects.apply`: A use of the names keeps the invariant.
* `Imports.Reflects.run`: A run keeps the invariant.
* `Imports.Reflects.unique`: Outlines determine the state that reflects them.
* `Imports.run_determined_by_visits`: A run is determined by which outlines were
  visited since the names were last forgotten.
-/

namespace JavaSource

theorem pairwise_insertName {name : String} {ns : List String} (h : ns.Pairwise (· < ·)) :
    (insertName name ns).Pairwise (· < ·) := by
  induction ns with
  | nil => exact List.pairwise_singleton _ _
  | cons n ns ih =>
      rw [List.pairwise_cons] at h
      rw [insertName]
      by_cases hlt : name < n
      · rw [if_pos hlt, List.pairwise_cons]
        refine ⟨?_, List.pairwise_cons.mpr h⟩
        intro a ha
        rcases List.mem_cons.mp ha with rfl | ha
        · exact hlt
        · exact lt_trans hlt (h.1 a ha)
      · rw [if_neg hlt]
        by_cases heq : name = n
        · rw [if_pos heq]
          exact List.pairwise_cons.mpr h
        · -- The name goes further down: it is greater than the first one.
          rw [if_neg heq, List.pairwise_cons]
          refine ⟨?_, ih h.2⟩
          intro a ha
          rcases mem_insertName.mp ha with rfl | ha
          · exact lt_of_le_of_ne (not_lt.mp hlt) (Ne.symm heq)
          · exact h.1 a ha

namespace Imports

/-- The state after some uses, one after the other. A visit that fails does not
    end the run, and leaves the names it got to. -/
def run (i : Imports) (steps : List Step) : Imports :=
  steps.foldl (fun i step => (i.apply step).value.2) i

/-- The outlines visited since the names were last forgotten, after one more
    use. -/
def Step.track (os : List Outline) : Step → List Outline
  | visit o => os ++ [o]
  | clear => []

/-- The outlines visited since the names were last forgotten, or since the start
    if they never were. -/
def sinceClear (steps : List Step) : List Outline :=
  steps.foldl Step.track []

/-- What came before the names were forgotten does not count. -/
theorem sinceClear_append_clear (steps : List Step) (os : List Outline) :
    sinceClear (steps ++ .clear :: os.map .visit) = os := by
  have hvisits : ∀ ps : List Outline, (os.map Step.visit).foldl Step.track ps = ps ++ os := by
    induction os with
    | nil => exact fun ps => (List.append_nil ps).symm
    | cons o os ih =>
        intro ps
        rw [List.map_cons, List.foldl_cons, Step.track, ih, List.append_assoc,
          List.singleton_append]
  rw [sinceClear, List.foldl_append, List.foldl_cons, Step.track, hvisits, List.nil_append]

/-- A name is one that visiting an outline adds: the pass over the outline gets
    to an external class of that name. -/
def Contributes (i : Imports) (nested : Bool) (o : Outline) (a : String) : Prop :=
  ∃ r, .reference r ∈ passed o.preorder ∧ i.External r ∧ r.isNested = nested ∧ a = r.fullName

/-- The names are, in ascending order, what some outlines contribute to names
    for the same packages. -/
structure Reflects (start : Imports) (os : List Outline) (i : Imports) : Prop where
  package : i.package = start.package
  implicitPackages : i.implicitPackages = start.implicitPackages
  ascending : ∀ nested, (i.names nested).Pairwise (· < ·)
  mem_names : ∀ nested a, a ∈ i.names nested ↔ ∃ o ∈ os, start.Contributes nested o a

variable {i : Imports}

section Meeting

variable {ns : List Node}

theorem package_meetAll : (i.meetAll ns).package = i.package := by
  refine List.foldlRecOn (motive := fun j => j.package = i.package) ns meet rfl ?_
  intro j hj n _
  rw [package_meet, hj]

theorem implicitPackages_meetAll : (i.meetAll ns).implicitPackages = i.implicitPackages := by
  refine List.foldlRecOn (motive := fun j => j.implicitPackages = i.implicitPackages) ns meet rfl ?_
  intro j hj n _
  rw [implicitPackages_meet, hj]

theorem pairwise_names_meetAll {nested : Bool} (h : (i.names nested).Pairwise (· < ·)) :
    ((i.meetAll ns).names nested).Pairwise (· < ·) := by
  refine List.foldlRecOn (motive := fun j => (j.names nested).Pairwise (· < ·)) ns meet h ?_
  intro j hj n _
  cases n with
  | reference r =>
      rw [meet, names_add]
      split
      · exact pairwise_insertName hj
      · exact hj
  | _ => exact hj

end Meeting

/-- Ascending names for the same packages are determined by which names they are. -/
theorem eq_of_mem_names {j : Imports} (hpackage : i.package = j.package)
    (himplicit : i.implicitPackages = j.implicitPackages)
    (hi : ∀ nested, (i.names nested).Pairwise (· < ·))
    (hj : ∀ nested, (j.names nested).Pairwise (· < ·))
    (h : ∀ nested a, a ∈ i.names nested ↔ a ∈ j.names nested) : i = j := by
  have hnames : ∀ nested, i.names nested = j.names nested :=
    fun nested => List.Pairwise.eq_of_mem_iff (hi nested) (hj nested) (h nested)
  have hstatics : i.statics = j.statics := hnames true
  have hplains : i.plains = j.plains := hnames false
  cases i
  cases j
  rw [Imports.mk.injEq]
  exact ⟨hpackage, himplicit, hstatics, hplains⟩

theorem contributes_congr {j : Imports} {nested : Bool} {o : Outline} {a : String}
    (hp : i.package = j.package) (hi : i.implicitPackages = j.implicitPackages) :
    i.Contributes nested o a ↔ j.Contributes nested o a := by
  unfold Contributes
  simp only [external_congr hp hi]

namespace Reflects

variable {start : Imports} {os ps : List Outline} {j : Imports}

theorem empty (package : String) (implicitPackages : List String) :
    Reflects (empty package implicitPackages) [] (empty package implicitPackages) where
  package := rfl
  implicitPackages := rfl
  ascending nested := by cases nested <;> exact List.Pairwise.nil
  mem_names nested a := by
    cases nested <;> simp [names, Imports.empty]

/-- A visit adds what its outline contributes, whether it succeeds or fails. -/
theorem visit (h : Reflects start os i) (o : Outline) :
    Reflects start (os ++ [o]) (i.visit o).value.2 := by
  rw [value_visit]
  refine ⟨?_, ?_, ?_, ?_⟩
  · rw [package_meetAll, h.package]
  · rw [implicitPackages_meetAll, h.implicitPackages]
  · intro nested
    exact pairwise_names_meetAll (h.ascending nested)
  · intro nested a
    have hnew : i.Contributes nested o a ↔ start.Contributes nested o a :=
      contributes_congr h.package h.implicitPackages
    rw [mem_names_meetAll, h.mem_names]
    simp only [List.mem_append, List.mem_singleton, or_and_right, exists_or, exists_eq_left]
    rw [← hnew]
    rfl

theorem clear (h : Reflects start os i) : Reflects start [] i.clear.value where
  package := h.package
  implicitPackages := h.implicitPackages
  ascending nested := by cases nested <;> exact List.Pairwise.nil
  mem_names nested a := by
    cases nested <;> simp [names, Imports.clear]

/-- One use of the names keeps the invariant. -/
theorem apply (h : Reflects start os i) (step : Step) :
    Reflects start (step.track os) (i.apply step).value.2 := by
  cases step with
  | visit o => exact h.visit o
  | clear => exact h.clear

/-- The state is determined by which outlines it reflects, not by their order or
    number. -/
theorem unique (hi : Reflects start os i) (hj : Reflects start ps j)
    (h : ∀ o, o ∈ os ↔ o ∈ ps) : i = j := by
  refine eq_of_mem_names (hi.package.trans hj.package.symm)
    (hi.implicitPackages.trans hj.implicitPackages.symm) hi.ascending hj.ascending ?_
  intro nested a
  rw [hi.mem_names, hj.mem_names]
  simp only [h]

end Reflects

/-- A run keeps the invariant, from whatever state that has it. -/
theorem Reflects.run {start : Imports} {os : List Outline} (h : Reflects start os i)
    (steps : List Step) : Reflects start (steps.foldl Step.track os) (i.run steps) := by
  induction steps generalizing os i with
  | nil => exact h
  | cons step steps ih =>
      -- The rest of the run starts from a state with the invariant again.
      exact ih (h.apply step)

theorem reflects_run_empty (package : String) (implicitPackages : List String)
    (steps : List Step) :
    Reflects (empty package implicitPackages) (sinceClear steps)
      ((empty package implicitPackages).run steps) :=
  (Reflects.empty package implicitPackages).run steps

/-- After any uses, successful or not, the packages are as at the start and the
    names of both kinds are strictly ascending. The names and the text of the
    imports depend on nothing but which outlines were visited since the names
    were last forgotten: in another order, or with repetitions, the same visits
    leave the same state. -/
theorem run_determined_by_visits (package : String) (implicitPackages : List String)
    (xs : List Step) :
    ((empty package implicitPackages).run xs).package = package ∧
    ((empty package implicitPackages).run xs).implicitPackages = implicitPackages ∧
    ((empty package implicitPackages).run xs).statics.Pairwise (· < ·) ∧
    ((empty package implicitPackages).run xs).plains.Pairwise (· < ·) ∧
    ∀ ys, (∀ o, o ∈ sinceClear xs ↔ o ∈ sinceClear ys) →
      ((empty package implicitPackages).run xs).statics =
          ((empty package implicitPackages).run ys).statics ∧
        ((empty package implicitPackages).run xs).plains =
          ((empty package implicitPackages).run ys).plains ∧
        ((empty package implicitPackages).run xs).write =
          ((empty package implicitPackages).run ys).write := by
  have hxs := reflects_run_empty package implicitPackages xs
  refine ⟨hxs.package, hxs.implicitPackages, hxs.ascending true, hxs.ascending false, ?_⟩
  intro ys h
  have hsame := hxs.unique (reflects_run_empty package implicitPackages ys) h
  exact ⟨congrArg statics hsame, congrArg plains hsame, congrArg write hsame⟩

/-- A visit that fails in a loop after collecting the type of its variable, put
    before or after others and repeated, leaves the same text, and so does a
    visit that is forgotten. -/
theorem run_reordered_visits :
    let failing := Outline.ofStmt (.forEach
      ⟨⟨⟨"book"⟩, .reference (.topLevel "org.book" "Book") false⟩, true, .localScope⟩
      (.string "") [.tryCatch none [] none [] true])
    let entry := Outline.ofReference ⟨"java.util", ["Map"], "Entry", [], none⟩
    ((empty "org.shelf" ["java.lang"]).run
        [.visit (Outline.ofReference (.topLevel "java.io" "File")), .clear, .visit failing,
          .visit entry]).write =
      ((empty "org.shelf" ["java.lang"]).run
        [.visit entry, .visit failing, .visit entry]).write := by
  intro failing entry
  refine ((run_determined_by_visits "org.shelf" ["java.lang"] _).2.2.2.2 _ ?_).2.2
  intro o
  have hxs : sinceClear [.visit (Outline.ofReference (.topLevel "java.io" "File")), .clear,
      .visit failing, .visit entry] = [failing, entry] := sinceClear_append_clear [_] [_, _]
  have hys : sinceClear [.visit entry, .visit failing, .visit entry] =
      [entry, failing, entry] := rfl
  rw [hxs, hys]
  simp only [List.mem_cons, List.not_mem_nil, or_false]
  grind

end Imports

end JavaSource
