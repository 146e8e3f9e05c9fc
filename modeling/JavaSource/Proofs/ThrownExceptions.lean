import JavaSource.Proofs.Declarations
import Mathlib.Data.List.Perm.Basic

/-!
# Declared Exceptions and Their Order

A method declares the exceptions that have to be declared, and no others. One
would expect that a type that may not be declared is refused wherever it stands
in the list, and that the order of the list is of no account.

Neither is so. The list is made a set before its types are looked at, and of
several types that are the same a set keeps the first. Whether a type has to be
declared is told by the superclass it carries, which is just what sameness
overlooks. A type that may not be declared can therefore hide behind one that is
the same and may; with the list turned round it is found.

What decides is thus which of several types that are the same comes first, and
for a given list of types that is a matter of its order. Some order is accepted if
each type is the same as one that may be declared, and all orders are only if all
types may be declared. Between the two lie the lists with a type that can be
hidden. A list in which types that are the same agree on whether they may be
declared is none of these, and for such a list both expectations are true.

## Main definitions

* `JavaType.Declarable`: The type is an exception that has to be declared.
* `Method.Parts.Builds`: The parts make a method.

## Theorems

* `exists_perm_forall_firstOccurrences`: What holds of the members that are kept
  in some order of a list.
* `forall_perm_forall_firstOccurrences`: What holds of them in every order.
* `Method.Parts.builds_iff`: The declared types are judged apart from all other
  parts.
* `Method.throws_judged_by_first_of_same`: Which lists of types are accepted as they
  stand, in some order, in every order, and whatever the order.
* `Method.unchecked_hides_behind_checked`: A list that is accepted, and refused when
  it is turned round.
-/

namespace JavaSource

/-! ### Orders of a list -/

/-- A place that is not in the first of two lists is behind all of it. -/
theorem prefix_of_append_eq {α : Type} {ys zs before after : List α} {y : α}
    (hsplit : ys ++ zs = before ++ y :: after) (hy : y ∉ ys) : ys <+: before := by
  rcases List.append_eq_append_iff.mp hsplit with ⟨more, hbefore, _⟩ | ⟨more, hys, htail⟩
  · exact ⟨more, hbefore.symm⟩
  · cases more with
    | nil => exact ⟨[], by rw [List.append_nil, hys, List.append_nil]⟩
    | cons m more =>
        rw [List.cons_append, List.cons.injEq] at htail
        rw [hys, htail.1] at hy
        exact absurd (List.mem_append_right before List.mem_cons_self) hy

section Orders

variable {α β : Type} [BEq α] {f : α → β} {xs : List α} {P : α → Prop}

/-- In some order all members that are kept have a property, if each member is the
    same as one that has it. -/
theorem exists_perm_forall_firstOccurrences (h : ∀ x y : α, (x == y) = true ↔ f x = f y) :
    (∃ ys, ys.Perm xs ∧ ∀ y ∈ firstOccurrences ys, P y) ↔
      ∀ x ∈ xs, ∃ y ∈ xs, f y = f x ∧ P y := by
  classical
  constructor
  · rintro ⟨ys, hperm, hkept⟩ x hx
    rcases exists_mem_firstOccurrences h (hperm.mem_iff.mpr hx) with ⟨y, hy, hyx⟩
    exact ⟨y, hperm.mem_iff.mp (mem_of_mem_firstOccurrences hy), hyx, hkept y hy⟩
  · intro hsame
    -- The members with the property are put in front of the others.
    refine ⟨xs.filter (fun x => decide (P x)) ++ xs.filter (fun x => !decide (P x)),
      List.filter_append_perm _ xs, fun y hy => ?_⟩
    by_contra hnot
    have hlate : y ∉ xs.filter (fun x => decide (P x)) := by
      intro hin
      exact hnot (of_decide_eq_true (List.mem_filter.mp hin).2)
    have hmem : y ∈ xs :=
      (List.filter_append_perm (fun x => decide (P x)) xs).mem_iff.mp
        (mem_of_mem_firstOccurrences hy)
    rcases hsame y hmem with ⟨z, hz, hzy, hPz⟩
    have hfront : z ∈ xs.filter (fun x => decide (P x)) :=
      List.mem_filter.mpr ⟨hz, decide_eq_true hPz⟩
    -- Then the member that is the same as `y` stands before it.
    rcases mem_firstOccurrences.mp hy with ⟨before, after, hsplit, hfirst⟩
    have hdiffer := hfirst z ((prefix_of_append_eq hsplit hlate).subset hfront)
    rw [(h z y).mpr hzy] at hdiffer
    cases hdiffer

/-- In every order all members that are kept have a property, if all members have
    it: each of them comes first in some order. -/
theorem forall_perm_forall_firstOccurrences :
    (∀ ys : List α, ys.Perm xs → ∀ y ∈ firstOccurrences ys, P y) ↔ ∀ x ∈ xs, P x := by
  constructor
  · intro hkept x hx
    rcases List.append_of_mem hx with ⟨before, after, rfl⟩
    refine hkept (x :: (before ++ after)) List.perm_middle.symm x ?_
    exact mem_firstOccurrences.mpr ⟨[], before ++ after, rfl, fun y hy => absurd hy (by simp)⟩
  · intro hall ys hperm y hy
    exact hall y (hperm.mem_iff.mp (mem_of_mem_firstOccurrences hy))

end Orders

/-- The type is an exception, and of the sort that has to be declared. Both are told
    by the chain of superclasses that the type itself carries. -/
def JavaType.Declarable (t : JavaType) : Prop :=
  ∃ r, t.reference? = some r ∧ r.isException = true ∧ r.isUnchecked = false

/-! ### Methods that declare exceptions -/

namespace Method

namespace Parts

/-- The parts make a method. -/
def Builds (p : Parts) : Prop :=
  ∃ m, p.build.outcome = .ok m

theorem builds_iff_acceptable {p : Parts} : p.Builds ↔ p.Acceptable :=
  ⟨fun ⟨_, h⟩ => acceptable_of_build h, exists_build_of_acceptable⟩

/-- The parts make a method if they do so without declared types, and if the declared
    types that are kept may be declared. -/
theorem builds_iff {p : Parts} {ts : List JavaType} :
    { p with throwsTypes := ts }.Builds ↔
      { p with throwsTypes := [] }.Builds ∧ ∀ t ∈ firstOccurrences ts, t.Declarable := by
  rw [builds_iff_acceptable, builds_iff_acceptable, forall_mem_firstOccurrences]
  constructor
  · intro h
    refine ⟨{ h with throwsTypes := fun before t after hsplit _ => ?_ }, h.throwsTypes⟩
    exact absurd hsplit (by simp)
  · rintro ⟨h, hthrows⟩
    exact { h with throwsTypes := hthrows }

end Parts

/-- The declared types are accepted exactly if each of them that is not the same as one
    before it may be declared. Some order of them is accepted exactly if each is the same
    as one that may be declared, and all orders are exactly if all may be declared; the
    other parts must be acceptable in any case. If types that are the same agree on
    whether they may be declared, then one that may not is refused wherever it stands,
    and the order makes no difference. -/
theorem throws_judged_by_first_of_same (p : Parts) :
    (p.Builds ↔ { p with throwsTypes := [] }.Builds ∧
      ∀ before t after, p.throwsTypes = before ++ t :: after →
        (∀ u ∈ before, (u == t) = false) → t.Declarable) ∧
    ((∃ ts, ts.Perm p.throwsTypes ∧ { p with throwsTypes := ts }.Builds) ↔
      { p with throwsTypes := [] }.Builds ∧
        ∀ t ∈ p.throwsTypes, ∃ u ∈ p.throwsTypes, (u == t) = true ∧ u.Declarable) ∧
    ((∀ ts, ts.Perm p.throwsTypes → { p with throwsTypes := ts }.Builds) ↔
      { p with throwsTypes := [] }.Builds ∧ ∀ t ∈ p.throwsTypes, t.Declarable) ∧
    ((∀ t ∈ p.throwsTypes, ∀ u ∈ p.throwsTypes, (t == u) = true →
        t.Declarable → u.Declarable) →
      ((∃ t ∈ p.throwsTypes, ¬ t.Declarable) → ¬ p.Builds) ∧
        ∀ ts, ts.Perm p.throwsTypes → ({ p with throwsTypes := ts }.Builds ↔ p.Builds)) := by
  have hbuilds : ∀ ts, { p with throwsTypes := ts }.Builds ↔
      { p with throwsTypes := [] }.Builds ∧ ∀ t ∈ firstOccurrences ts, t.Declarable :=
    fun _ => Parts.builds_iff
  -- The other parts are the same throughout, so they count as one condition.
  generalize { p with throwsTypes := [] }.Builds = rest at hbuilds ⊢
  simp only [hbuilds]
  refine ⟨?_, ?_, ?_, fun hagree => ?_⟩
  · rw [forall_mem_firstOccurrences]
  · simp only [JavaType.beq_iff]
    rw [← exists_perm_forall_firstOccurrences JavaType.beq_iff]
    constructor
    · rintro ⟨ts, hperm, hrest, hkept⟩
      exact ⟨hrest, ts, hperm, hkept⟩
    · rintro ⟨hrest, ts, hperm, hkept⟩
      exact ⟨ts, hperm, hrest, hkept⟩
  · rw [← forall_perm_forall_firstOccurrences]
    constructor
    · intro hall
      exact ⟨(hall p.throwsTypes (List.Perm.refl _)).1, fun ts hperm => (hall ts hperm).2⟩
    · rintro ⟨hrest, hkept⟩ ts hperm
      exact ⟨hrest, hkept ts hperm⟩
  · simp only [JavaType.beq_iff] at hagree
    -- In any order, the types that are kept speak for all.
    have hall : ∀ ts, ts.Perm p.throwsTypes →
        ((∀ t ∈ firstOccurrences ts, t.Declarable) ↔ ∀ t ∈ p.throwsTypes, t.Declarable) := by
      intro ts hperm
      rw [← eraseDups_eq_firstOccurrences JavaType.beq_iff,
        forall_mem_eraseDups_iff JavaType.beq_iff]
      · simp only [hperm.mem_iff]
      · simpa only [hperm.mem_iff] using hagree
    rw [hall p.throwsTypes (List.Perm.refl _)]
    refine ⟨?_, fun ts hperm => by rw [hall ts hperm]⟩
    rintro ⟨t, ht, hnot⟩ ⟨_, hdeclarable⟩
    exact hnot (hdeclarable t ht)

/-- A method that declares one exception twice, first as one that has to be declared
    and then as one that need not be. -/
def Parts.fetch : Parts :=
  { scope := some .publicScope
    returnType := some .void
    name := "fetch"
    annotations := []
    throwsTypes :=
      [.reference ⟨"com.example", [], "QuotaException", [], some (.javaLang "Exception")⟩ false,
        .reference ⟨"com.example", [], "QuotaException", [],
          some (.javaLang "RuntimeException")⟩ false]
    arguments := []
    isStatic := false
    isFinal := false
    isAbstract := false
    body := []
    returnExpr := none
    isOverride := false }

theorem unchecked_hides_behind_checked :
    (∃ t ∈ Parts.fetch.throwsTypes, ∃ r, t.reference? = some r ∧ r.isUnchecked = true) ∧
    Parts.fetch.Builds ∧
    ¬ { Parts.fetch with throwsTypes := Parts.fetch.throwsTypes.reverse }.Builds := by
  refine ⟨⟨_, List.mem_cons_of_mem _ List.mem_cons_self, _, rfl, by decide +kernel⟩, ⟨_, rfl⟩, ?_⟩
  rintro ⟨m, h⟩
  have hrefused : ∃ e, { Parts.fetch with
      throwsTypes := Parts.fetch.throwsTypes.reverse }.build.outcome = .error e := ⟨_, rfl⟩
  rcases hrefused with ⟨e, he⟩
  rw [he] at h
  cases h

end Method

end JavaSource
