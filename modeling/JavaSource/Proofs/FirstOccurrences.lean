import JavaSource.Proofs.Sameness
import JavaSource.Proofs.WellFormed

/-!
# First Occurrences

Annotations, implemented types and declared exceptions come as lists and are
kept as sets, in which each member stands where it first stood. What is the same
is decided by a test that overlooks superclasses, so members that count as one
need not be equal, and it matters which of them is kept.

`firstOccurrences` says what is to be kept: the members that are not the same as
any member before them. That is a statement about places in the list as it was
supplied, and knows nothing of how the set is filled. The program fills it by
keeping the first member and throwing out of the rest all that are the same.
The two agree if the test is an equivalence (`eraseDups_eq_firstOccurrences`):
the program compares a member with those that were kept, not with all that were
supplied, and it takes transitivity to see that nothing is missed thereby.

## Main definitions

* `firstOccurrences`: The members that are not the same as one before them.

## Theorems

* `mem_firstOccurrences`: A first occurrence splits the list at its place.
* `firstOccurrences_map`: A map that respects sameness keeps first occurrences.
* `firstOccurrences_filter`: So does leaving out members along with all that are the same.
* `firstsAfter_append`: The first occurrences of one list after another.
* `eraseDups_eq_firstOccurrences`: What is kept are the first occurrences.
* `forall_mem_eraseDups_iff`: A property that does not tell members apart that
  are the same holds of all members if it holds of those that are kept.
-/

namespace JavaSource

section Places

variable {α : Type} [BEq α]

/-- The members of a list that are neither the same as one before them nor the
    same as one of the members in front of the list. -/
def firstsAfter (front : List α) : List α → List α
  | [] => []
  | x :: xs =>
    if front.any (fun y => y == x) then firstsAfter (front ++ [x]) xs
    else x :: firstsAfter (front ++ [x]) xs

/-- The members of a list that are not the same as one before them. -/
def firstOccurrences (xs : List α) : List α :=
  firstsAfter [] xs

theorem mem_firstsAfter {x : α} {front xs : List α} :
    x ∈ firstsAfter front xs ↔
      ∃ before after, xs = before ++ x :: after ∧ ∀ y ∈ front ++ before, (y == x) = false := by
  induction xs generalizing front with
  | nil =>
      simp only [firstsAfter, List.not_mem_nil, false_iff]
      rintro ⟨before, after, h, _⟩
      exact absurd h (by simp)
  | cons z xs ih =>
      have hstep : x ∈ firstsAfter front (z :: xs) ↔
          x = z ∧ front.any (fun y => y == z) = false ∨ x ∈ firstsAfter (front ++ [z]) xs := by
        rw [firstsAfter]
        cases front.any (fun y => y == z) <;> simp
      rw [hstep, ih]
      -- The first member is at the place in question, or in front of it.
      constructor
      · rintro (⟨rfl, hfront⟩ | ⟨before, after, rfl, hbefore⟩)
        · exact ⟨[], xs, rfl, by simpa using hfront⟩
        · exact ⟨z :: before, after, rfl, by simpa using hbefore⟩
      · rintro ⟨before, after, h, hbefore⟩
        cases before with
        | nil =>
            rw [List.nil_append, List.cons.injEq] at h
            rw [List.append_nil, ← h.1] at hbefore
            exact Or.inl ⟨h.1.symm, by simpa using hbefore⟩
        | cons b before =>
            rw [List.cons_append, List.cons.injEq] at h
            rw [← h.1] at hbefore
            exact Or.inr ⟨before, after, h.2, by simpa using hbefore⟩

theorem mem_firstOccurrences {x : α} {xs : List α} :
    x ∈ firstOccurrences xs ↔
      ∃ before after, xs = before ++ x :: after ∧ ∀ y ∈ before, (y == x) = false :=
  mem_firstsAfter

theorem mem_of_mem_firstOccurrences {x : α} {xs : List α} (hx : x ∈ firstOccurrences xs) :
    x ∈ xs := by
  rcases mem_firstOccurrences.mp hx with ⟨before, after, rfl, _⟩
  exact List.mem_append_right before List.mem_cons_self

theorem forall_mem_firstOccurrences {xs : List α} {P : α → Prop} :
    (∀ x ∈ firstOccurrences xs, P x) ↔
      ∀ before x after, xs = before ++ x :: after → (∀ y ∈ before, (y == x) = false) → P x := by
  simp only [mem_firstOccurrences]
  exact ⟨fun h before x after hsplit hfirst => h x ⟨before, after, hsplit, hfirst⟩,
    fun h x ⟨before, after, hsplit, hfirst⟩ => h before x after hsplit hfirst⟩

/-- A map that keeps members apart, and together, keeps first occurrences. -/
theorem firstsAfter_map {β : Type} [BEq β] {f : α → β} {front xs : List α}
    (h : ∀ x ∈ front ++ xs, ∀ y ∈ front ++ xs, (f x == f y) = (x == y)) :
    firstsAfter (front.map f) (xs.map f) = (firstsAfter front xs).map f := by
  induction xs generalizing front with
  | nil => rfl
  | cons x xs ih =>
      have hseen : (front.map f).any (fun y => y == f x) = front.any (fun y => y == x) := by
        rw [List.any_map, Bool.eq_iff_iff, List.any_eq_true, List.any_eq_true]
        refine exists_congr (fun y => and_congr_right (fun hy => ?_))
        rw [Function.comp_apply, h y (by simp [hy]) x (by simp)]
      have hrest : firstsAfter (front.map f ++ [f x]) (xs.map f) =
          (firstsAfter (front ++ [x]) xs).map f := by
        have hstep := @ih (front ++ [x]) (by simpa using h)
        rwa [List.map_append] at hstep
      rw [List.map_cons, firstsAfter, firstsAfter, hseen, hrest]
      cases front.any (fun y => y == x) <;> rfl

theorem firstOccurrences_map {β : Type} [BEq β] {f : α → β} {xs : List α}
    (h : ∀ x ∈ xs, ∀ y ∈ xs, (f x == f y) = (x == y)) :
    firstOccurrences (xs.map f) = (firstOccurrences xs).map f := by
  have hafter : firstsAfter (([] : List α).map f) (xs.map f) = (firstsAfter [] xs).map f :=
    firstsAfter_map h
  exact hafter

theorem firstsAfter_cons {x : α} {front xs : List α} :
    firstsAfter front (x :: xs) =
      (if front.any (fun y => y == x) then [] else [x]) ++ firstsAfter (front ++ [x]) xs := by
  rw [firstsAfter]
  cases front.any (fun y => y == x) <;> rfl

theorem firstsAfter_append {front xs ys : List α} :
    firstsAfter front (xs ++ ys) = firstsAfter front xs ++ firstsAfter (front ++ xs) ys := by
  induction xs generalizing front with
  | nil => simp only [firstsAfter, List.nil_append, List.append_nil]
  | cons x xs ih =>
      rw [List.cons_append, firstsAfter_cons, firstsAfter_cons, ih, List.append_assoc,
        List.append_assoc, List.singleton_append]

/-- Where members are left out along with all that are the same, nothing that is left out
    stands in front of the same. -/
theorem firstsAfter_filter {P : α → Bool} (h : ∀ x y : α, (x == y) = true → P x = P y)
    {front xs : List α} :
    (firstsAfter front xs).filter P = firstsAfter (front.filter P) (xs.filter P) := by
  induction xs generalizing front with
  | nil => rfl
  | cons x xs ih =>
      rw [firstsAfter_cons, List.filter_append, ih, List.filter_append]
      cases hx : P x with
      | false => cases front.any (fun y => y == x) <;> simp [hx]
      | true =>
          have hseen : (front.filter P).any (fun y => y == x) = front.any (fun y => y == x) := by
            rw [List.any_filter, Bool.eq_iff_iff, List.any_eq_true, List.any_eq_true]
            refine exists_congr (fun y => and_congr_right (fun _ => ?_))
            rw [Bool.and_eq_true, and_iff_right_iff_imp]
            intro hyx
            rw [h y x hyx, hx]
          simp only [List.filter_cons_of_pos hx, List.filter_nil, firstsAfter_cons, hseen]
          cases front.any (fun y => y == x) <;> simp [hx]

theorem firstOccurrences_filter {P : α → Bool} (h : ∀ x y : α, (x == y) = true → P x = P y)
    {xs : List α} : (firstOccurrences xs).filter P = firstOccurrences (xs.filter P) :=
  firstsAfter_filter h

end Places

section Sets

variable {α β : Type} [BEq α] {f : α → β} {xs : List α}

theorem firstsAfter_eq (h : ∀ x y : α, (x == y) = true ↔ f x = f y) (front : List α) :
    firstsAfter front xs = (xs.filter (fun x => !front.any (fun y => y == x))).eraseDups := by
  induction xs generalizing front with
  | nil => rfl
  | cons x xs ih =>
      have hany : ∀ z, (front ++ [x]).any (fun y => y == z) =
          (front.any (fun y => y == z) || x == z) := by
        intro z
        rw [List.any_append, List.any_cons, List.any_nil, Bool.or_false]
      rw [firstsAfter, List.filter_cons, ih]
      cases hseen : front.any (fun y => y == x) with
      | true =>
          -- What is the same as this member is the same as one in front of it.
          have hsame : ∀ z, (front.any (fun y => y == z) || x == z) =
              front.any (fun y => y == z) := by
            intro z
            rw [Bool.or_eq_left_iff_imp]
            intro hz
            rcases List.any_eq_true.mp hseen with ⟨y, hy, hyx⟩
            refine List.any_eq_true.mpr ⟨y, hy, ?_⟩
            rw [h] at hyx hz ⊢
            rw [hyx, hz]
          simp only [hany, hsame, if_true, Bool.not_true, Bool.false_eq_true, if_false]
      | false =>
          have hsymm : ∀ z, (x == z) = (z == x) := by
            intro z
            rw [Bool.eq_iff_iff, h, h, eq_comm]
          simp only [hany, Bool.false_eq_true, if_false, Bool.not_false, if_true,
            List.eraseDups_cons, List.filter_filter, Bool.not_or, hsymm]
          simp only [Bool.and_comm]

/-- What is kept of a list are its first occurrences. -/
theorem eraseDups_eq_firstOccurrences (h : ∀ x y : α, (x == y) = true ↔ f x = f y) :
    xs.eraseDups = firstOccurrences xs := by
  have hnone : xs.filter (fun x => !([] : List α).any (fun y => y == x)) = xs :=
    List.filter_eq_self.mpr (fun _ _ => rfl)
  rw [firstOccurrences, firstsAfter_eq h, hnone]

/-- Of every member the same is kept. -/
theorem exists_mem_eraseDups (h : ∀ x y : α, (x == y) = true ↔ f x = f y) {x : α} (hx : x ∈ xs) :
    ∃ y ∈ xs.eraseDups, f y = f x := by
  have hfound : (xs.find? (fun y => y == x)).isSome = true := by
    rw [List.find?_isSome]
    exact ⟨x, hx, (h x x).mpr rfl⟩
  rcases Option.isSome_iff_exists.mp hfound with ⟨y, hy⟩
  rcases List.find?_eq_some_iff_append.mp hy with ⟨hyx, before, after, hxs, hbefore⟩
  rw [h] at hyx
  refine ⟨y, ?_, hyx⟩
  rw [eraseDups_eq_firstOccurrences h, mem_firstOccurrences]
  refine ⟨before, after, hxs, fun z hz => ?_⟩
  have hzx := hbefore z hz
  rw [Bool.not_eq_true', ← Bool.not_eq_true, h, ← hyx] at hzx
  rw [← Bool.not_eq_true, h]
  exact hzx

theorem exists_mem_firstOccurrences (h : ∀ x y : α, (x == y) = true ↔ f x = f y) {x : α}
    (hx : x ∈ xs) : ∃ y ∈ firstOccurrences xs, f y = f x := by
  rw [← eraseDups_eq_firstOccurrences h]
  exact exists_mem_eraseDups h hx

/-- A property that does not tell members apart that are the same holds of all
    members if it holds of those that are kept. -/
theorem forall_mem_eraseDups_iff (h : ∀ x y : α, (x == y) = true ↔ f x = f y) {P : α → Prop}
    (hP : ∀ x ∈ xs, ∀ y ∈ xs, f x = f y → P x → P y) :
    (∀ x ∈ xs.eraseDups, P x) ↔ ∀ x ∈ xs, P x := by
  constructor
  · intro hkept x hx
    rcases exists_mem_eraseDups h hx with ⟨y, hy, hyx⟩
    exact hP y (mem_of_mem_eraseDups hy) x hx hyx (hkept y hy)
  · intro hall x hx
    exact hall x (mem_of_mem_eraseDups hx)

end Sets

end JavaSource
