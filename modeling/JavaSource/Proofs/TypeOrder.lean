import JavaSource.Proofs.ArrayTypes
import JavaSource.Proofs.ReferenceOrder

/-!
# Sorting Types

Types are ordered so that a collection of them can be gone through in an order of its
own, which does not depend on how the collection was filled. Types that are made of no
class are on a par with everything, so nothing can be expected of them. Among types that
are made of classes one would expect that sorting a collection gives one sequence, up to
sameness, in whatever order its members come.

It does not, since the order goes by the classes alone and an array is made of the class
of its elements. A class and its arrays are different types on a par. A stable sort
leaves them as they stood, and so their order is that of the collection after all.

Nothing else goes wrong. The order of the classes is linear up to sameness, so the
classes come out in one sequence in any case, and the sequence of types is settled as
soon as each class stands in the collection only as itself or only as an array.

What a stable sort is, is said without an algorithm (`StablySorted`). It exists and is
unique for every comparison that is linear up to being on a par, and merging is one way
to it. The order of types is not such a comparison, because of the types that are made of
no class. It agrees with one on types that are made of classes, which is the comparison
of `JavaType.reference?`.

## Main definitions

* `onPar`: The members of a list on a par with a value.
* `StablySorted`: One list is another sorted stably.
* `JavaType.bareClass`: The class that a type is made of, without superclasses.

## Theorems

* `stablySorted_mergeSort`, `StablySorted.unique`: A stably sorted list exists, and there
  is only one.
* `StablySorted.map_eq`: What the comparison sees of a sorted list does not depend on the
  order of the original.
* `JavaType.order_eq_compareOn`: The order of types compares classes.
* `JavaType.map_bareClass_eq`: The classes of types come out in one sequence.
* `JavaType.exists_sorted_apart`: A class and its arrays come out in the order of the list.
* `JavaType.sorted_alike_iff_arrays_apart`: Which lists of types are sorted alike in all
  orders.
* `ClassDecl.same_classes_sorted_apart`: Two classes that are the same and whose
  implemented types are sorted differently.
-/

namespace JavaSource

/-! ### Stable sorting -/

/-- The members of a list on a par with a value, in their order. -/
def onPar {α : Type} (order : α → α → Ordering) (x : α) (ys : List α) : List α :=
  ys.filter (fun y => order x y == .eq)

/-- The second list is the first one sorted stably: it has the same members, it descends
    nowhere, and members on a par stand in the order in which they stood. -/
structure StablySorted {α : Type} (order : α → α → Ordering) (xs ys : List α) : Prop where
  perm : ys.Perm xs
  ascending : ys.Pairwise (fun x y => order x y ≠ .gt)
  stable : ∀ x ∈ xs, onPar order x ys = onPar order x xs

section Sorting

variable {α β : Type} {order : α → α → Ordering} {f : α → β} {x y : α} {xs xs' ys zs : List α}

theorem mem_onPar : y ∈ onPar order x ys ↔ y ∈ ys ∧ order x y = .eq := by
  rw [onPar, List.mem_filter, beq_iff_eq]

theorem onPar_cons_of_eq (h : order x y = .eq) :
    onPar order x (y :: ys) = y :: onPar order x ys := by
  unfold onPar
  rw [List.filter_cons, h]
  rfl

theorem onPar_cons_of_ne (h : order x y ≠ .eq) : onPar order x (y :: ys) = onPar order x ys := by
  unfold onPar
  rw [List.filter_cons, if_neg (by simpa using h)]

/-- A map that changes nothing for the comparison keeps what is on a par. -/
theorem onPar_map {g : α → α} (h : ∀ y, order x (g y) = order x y) :
    onPar order x (ys.map g) = (onPar order x ys).map g := by
  unfold onPar
  rw [List.filter_map]
  congr 2
  funext y
  rw [Function.comp_apply, h]

/-- Only comparisons between members count. -/
theorem StablySorted.congr {order' : α → α → Ordering}
    (h : ∀ x ∈ xs, ∀ y ∈ xs, order x y = order' x y) (hs : StablySorted order xs ys) :
    StablySorted order' xs ys where
  perm := hs.perm
  ascending := by
    refine hs.ascending.imp_of_mem (fun {x y} hx hy hle => ?_)
    rw [← h x (hs.perm.mem_iff.mp hx) y (hs.perm.mem_iff.mp hy)]
    exact hle
  stable := by
    intro x hx
    have hpar : ∀ us : List α, (∀ y ∈ us, y ∈ xs) → onPar order' x us = onPar order x us := by
      intro us hus
      refine List.filter_congr (fun y hy => ?_)
      rw [h x hx y (hus y hy)]
    rw [hpar ys (fun y hy => hs.perm.mem_iff.mp hy), hpar xs (fun y hy => hy)]
    exact hs.stable x hx

/-- Merging is a way to sort stably. -/
theorem stablySorted_mergeSort [Std.TransCmp order] (xs : List α) :
    StablySorted order xs (xs.mergeSort (fun x y => (order x y).isLE)) := by
  have htrans : ∀ x y z, (order x y).isLE = true → (order y z).isLE = true →
      (order x z).isLE = true := fun x y z => Std.TransCmp.isLE_trans
  have htotal : ∀ x y, ((order x y).isLE || (order y x).isLE) = true := by
    intro x y
    have hswap : order y x = (order x y).swap := Std.OrientedCmp.eq_swap
    rw [hswap]
    cases order x y <;> rfl
  have hperm := List.mergeSort_perm xs (fun x y => (order x y).isLE)
  refine ⟨hperm, ?_, fun x _ => ?_⟩
  · refine (List.pairwise_mergeSort htrans htotal xs).imp (fun {x y} hle => ?_)
    exact Ordering.isLE_iff_ne_gt.mp hle
  · -- The members on a par with `x` nowhere descend, so they stay in their order.
    have hpar : (onPar order x xs).Pairwise (fun y z => (order y z).isLE = true) := by
      refine List.pairwise_of_forall_mem_list (fun y hy z hz => ?_)
      have hyz : order y z = order x z := (Std.TransCmp.congr_left (mem_onPar.mp hy).2).symm
      rw [hyz, (mem_onPar.mp hz).2]
      rfl
    have hsublist : (onPar order x xs).Sublist
        (onPar order x (xs.mergeSort (fun x y => (order x y).isLE))) := by
      have hkept := (List.sublist_mergeSort htrans htotal hpar List.filter_sublist).filter
        (fun y => order x y == .eq)
      simpa only [onPar, List.filter_filter, Bool.and_self] using hkept
    exact (hsublist.eq_of_length (hperm.filter _).length_eq.symm).symm

/-- What a comparison sees of the members is the same in every sorted list, in whatever
    order the members came. -/
theorem StablySorted.map_eq [Std.TransCmp order] (hf : ∀ x y, order x y = .eq ↔ f x = f y)
    (hperm : xs'.Perm xs) (hy : StablySorted order xs ys) (hz : StablySorted order xs' zs) :
    ys.map f = zs.map f := by
  -- Of two images one is not above the other if some members with these images are not.
  have hantisymm : ∀ b c, (∃ x y, f x = b ∧ f y = c ∧ order x y ≠ .gt) →
      (∃ x y, f x = c ∧ f y = b ∧ order x y ≠ .gt) → b = c := by
    rintro b c ⟨x, y, rfl, rfl, hxy⟩ ⟨y', x', hy', hx', hyx⟩
    have hle : order y x ≠ .gt := by
      rw [← hf] at hy' hx'
      rw [Std.TransCmp.congr_left hy', Std.TransCmp.congr_right hx'] at hyx
      exact hyx
    have hpar : order x y = .eq :=
      Std.OrientedCmp.isLE_antisymm (Ordering.ne_gt_iff_isLE.mp hxy)
        (Ordering.ne_gt_iff_isLE.mp hle)
    exact (hf x y).mp hpar
  have hascending : ∀ us : List α, us.Pairwise (fun x y => order x y ≠ .gt) →
      (us.map f).Pairwise (fun b c => ∃ x y, f x = b ∧ f y = c ∧ order x y ≠ .gt) := by
    intro us hus
    rw [List.pairwise_map]
    exact hus.imp (fun {x y} hle => ⟨x, y, rfl, rfl, hle⟩)
  refine List.Perm.eq_of_pairwise (fun b c _ _ => hantisymm b c) (hascending ys hy.ascending)
    (hascending zs hz.ascending) ?_
  exact ((hy.perm.trans hperm.symm).trans hz.perm.symm).map f

/-- Lists of which a comparison sees the same, place by place, are equal if the members on
    a par with any one member come in the same order. -/
theorem eq_of_onPar_eq (hf : ∀ x y, order x y = .eq ↔ f x = f y)
    (hmap : ys.map f = zs.map f) (h : ∀ x ∈ ys, onPar order x ys = onPar order x zs) :
    ys = zs := by
  induction ys generalizing zs with
  | nil =>
      rw [List.map_nil, eq_comm, List.map_eq_nil_iff] at hmap
      exact hmap.symm
  | cons y ys ih =>
      cases zs with
      | nil => simp at hmap
      | cons z zs =>
          rw [List.map_cons, List.map_cons, List.cons.injEq] at hmap
          -- Both heads are on a par with the first, so they come first among these.
          have hself : order y y = .eq := (hf y y).mpr rfl
          have hhead : order y z = .eq := (hf y z).mpr hmap.1
          have hyz : y = z := by
            have hfirst := h y List.mem_cons_self
            rw [onPar_cons_of_eq hself, onPar_cons_of_eq hhead, List.cons.injEq] at hfirst
            exact hfirst.1
          subst hyz
          have htail : ys = zs := by
            refine ih hmap.2 (fun x hx => ?_)
            have hx := h x (List.mem_cons_of_mem y hx)
            by_cases hpar : order x y = .eq
            · rw [onPar_cons_of_eq hpar, onPar_cons_of_eq hpar, List.cons.injEq] at hx
              exact hx.2
            · rw [onPar_cons_of_ne hpar, onPar_cons_of_ne hpar] at hx
              exact hx
          rw [htail]

/-- There is only one way to sort stably. -/
theorem StablySorted.unique [Std.TransCmp order] (hf : ∀ x y, order x y = .eq ↔ f x = f y)
    (hy : StablySorted order xs ys) (hz : StablySorted order xs zs) : ys = zs := by
  refine eq_of_onPar_eq hf (hy.map_eq hf (List.Perm.refl xs) hz) (fun x hx => ?_)
  have hx := hy.perm.mem_iff.mp hx
  rw [hy.stable x hx, hz.stable x hx]

/-- Lists with equal images under one map have equal images under another that tells no
    more members apart. -/
theorem map_eq_of_map_eq {γ : Type} {g : α → γ} (hmap : ys.map f = zs.map f)
    (h : ∀ y ∈ ys, ∀ z ∈ zs, f y = f z → g y = g z) : ys.map g = zs.map g := by
  induction ys generalizing zs with
  | nil =>
      rw [List.map_nil, eq_comm, List.map_eq_nil_iff] at hmap
      rw [hmap]
  | cons y ys ih =>
      cases zs with
      | nil => simp at hmap
      | cons z zs =>
          rw [List.map_cons, List.map_cons, List.cons.injEq] at hmap
          have hhead : g y = g z := h y List.mem_cons_self z List.mem_cons_self hmap.1
          have htail : ys.map g = zs.map g := by
            refine ih hmap.2 (fun y' hy' z' hz' => ?_)
            exact h y' (List.mem_cons_of_mem y hy') z' (List.mem_cons_of_mem z hz')
          rw [List.map_cons, List.map_cons, hhead, htail]

/-- Two different members can be put in front of all others. -/
theorem exists_perm_cons_cons (hx : x ∈ xs) (hy : y ∈ xs) (hne : x ≠ y) :
    ∃ rest, (x :: y :: rest).Perm xs := by
  rcases List.append_of_mem hx with ⟨before, after, rfl⟩
  have hy : y ∈ before ++ after := by
    rw [List.mem_append, List.mem_cons] at hy
    rcases hy with hy | rfl | hy
    · exact List.mem_append_left after hy
    · exact absurd rfl hne
    · exact List.mem_append_right before hy
  rcases List.append_of_mem hy with ⟨before', after', hrest⟩
  refine ⟨before' ++ after', List.Perm.trans ?_ List.perm_middle.symm⟩
  rw [hrest]
  exact List.perm_middle.symm.cons x

end Sorting

/-! ### The order of types -/

namespace JavaType

/-- The class that a type is made of, without what is known about superclasses. -/
def bareClass (t : JavaType) : Option Reference :=
  t.reference?.map Reference.bare

variable {t u : JavaType} {ts : List JavaType}

theorem bareClass_bare (t : JavaType) : t.bare.bareClass = t.bareClass := by
  cases t with
  | reference r isArray =>
      simp only [bare, bareClass, reference?, Option.map_some, Reference.bare_bare]
  | void => rfl
  | primitive p isArray => rfl

/-- Types that are made of classes are the same if the classes are and both are arrays or
    neither is. -/
theorem bare_eq_iff (ht : t.isReference = true) (hu : u.isReference = true) :
    t.bare = u.bare ↔ t.bareClass = u.bareClass ∧ t.isArray = u.isArray := by
  cases t <;> cases u <;> simp_all [isReference, bare, bareClass, reference?, isArray]

theorem compareOn_eq_eq_iff (t u : JavaType) :
    compareOn reference? t u = .eq ↔ t.bareClass = u.bareClass := by
  unfold compareOn bareClass
  cases t.reference? with
  | none => cases u.reference? <;> simp [compare]
  | some r =>
      cases u.reference? with
      | none => simp [compare]
      | some s =>
          rw [Option.map_some, Option.map_some, Option.some.injEq, ← Reference.order_eq_iff]
          rfl

/-- Of types that are made of classes, the order compares the classes. -/
theorem order_eq_compareOn (ht : t.isReference = true) (hu : u.isReference = true) :
    t.order u = compareOn reference? t u := by
  cases t with
  | reference r isArray =>
      cases u with
      | reference s isArray' => rfl
      | void => cases hu
      | primitive p isArray' => cases hu
  | void => cases ht
  | primitive p isArray => cases ht

/-- Sorting types that are made of classes is sorting by these classes. -/
theorem stablySorted_iff (h : ∀ t ∈ ts, t.isReference = true) {us : List JavaType} :
    StablySorted order ts us ↔ StablySorted (compareOn reference?) ts us := by
  constructor
  · exact StablySorted.congr (fun t ht u hu => order_eq_compareOn (h t ht) (h u hu))
  · exact StablySorted.congr (fun t ht u hu => (order_eq_compareOn (h t ht) (h u hu)).symm)

theorem existsUnique_stablySorted (h : ∀ t ∈ ts, t.isReference = true) :
    ∃! us, StablySorted order ts us := by
  simp only [stablySorted_iff h]
  refine ⟨_, stablySorted_mergeSort ts, fun us hus => ?_⟩
  exact hus.unique compareOn_eq_eq_iff (stablySorted_mergeSort ts)

/-- A class and its arrays, put in front of a list in either order, stay in this order, so
    the sorted lists are not the same. -/
theorem swapped_of_array {us vs rest : List JavaType} (hclass : t.bareClass = u.bareClass)
    (harray : t.isArray ≠ u.isArray)
    (hus : StablySorted (compareOn reference?) (t :: u :: rest) us)
    (hvs : StablySorted (compareOn reference?) (u :: t :: rest) vs) :
    us.map bare ≠ vs.map bare := by
  intro hsame
  have hself : compareOn reference? t t = .eq := (compareOn_eq_eq_iff t t).mpr rfl
  have hpar : compareOn reference? t u = .eq := (compareOn_eq_eq_iff t u).mpr hclass
  have hfirst := hus.stable t (by simp)
  have hsecond := hvs.stable t (by simp)
  rw [onPar_cons_of_eq hself, onPar_cons_of_eq hpar] at hfirst
  rw [onPar_cons_of_eq hpar, onPar_cons_of_eq hself] at hsecond
  -- Superclasses do not count for what is on a par.
  have hbare : ∀ v : JavaType, compareOn reference? t v.bare = compareOn reference? t v := by
    intro v
    exact Std.TransCmp.congr_right ((compareOn_eq_eq_iff _ _).mpr v.bareClass_bare)
  have hheads : (t :: u :: onPar (compareOn reference?) t rest).map bare =
      (u :: t :: onPar (compareOn reference?) t rest).map bare := by
    rw [← hfirst, ← hsecond, ← onPar_map hbare, ← onPar_map hbare, hsame]
  simp only [List.map_cons, List.cons.injEq] at hheads
  apply harray
  rw [← isArray_bare, hheads.1, isArray_bare]

/-- The classes come out in one sequence, in whatever order the types come. -/
theorem map_bareClass_eq {ts' us vs : List JavaType} (h : ∀ t ∈ ts, t.isReference = true)
    (hperm : ts'.Perm ts) (hus : StablySorted order ts us) (hvs : StablySorted order ts' vs) :
    us.map bareClass = vs.map bareClass := by
  have h' : ∀ t ∈ ts', t.isReference = true := fun t ht => h t (hperm.mem_iff.mp ht)
  rw [stablySorted_iff h] at hus
  rw [stablySorted_iff h'] at hvs
  exact hus.map_eq compareOn_eq_eq_iff hperm hvs

/-- If a class stands in a list as itself and as an array, then there are two orders of the
    list that are not sorted alike. -/
theorem exists_sorted_apart (h : ∀ t ∈ ts, t.isReference = true) (ht : t ∈ ts) (hu : u ∈ ts)
    (hclass : t.bareClass = u.bareClass) (harray : t.isArray ≠ u.isArray) :
    ∃ ts' ts'' us vs, ts'.Perm ts ∧ ts''.Perm ts ∧ StablySorted order ts' us ∧
      StablySorted order ts'' vs ∧ us.map bare ≠ vs.map bare := by
  have hne : t ≠ u := by
    rintro rfl
    exact harray rfl
  -- The two types are put in front of the others, in this order and the other way round.
  rcases exists_perm_cons_cons ht hu hne with ⟨rest, hfront⟩
  have hback : (u :: t :: rest).Perm ts := (List.Perm.swap t u rest).trans hfront
  have hreference : ∀ ts' : List JavaType, ts'.Perm ts → ∀ v ∈ ts', v.isReference = true :=
    fun ts' hperm v hv => h v (hperm.mem_iff.mp hv)
  rcases existsUnique_stablySorted (hreference _ hfront) with ⟨us, hus, _⟩
  rcases existsUnique_stablySorted (hreference _ hback) with ⟨vs, hvs, _⟩
  refine ⟨_, _, us, vs, hfront, hback, hus, hvs, ?_⟩
  rw [stablySorted_iff (hreference _ hfront)] at hus
  rw [stablySorted_iff (hreference _ hback)] at hvs
  exact swapped_of_array hclass harray hus hvs

/-- A list of types that are made of classes is sorted stably in exactly one way. In
    whatever order the types come, the sorted types are on a par place by place. They are
    the same place by place exactly if no class stands in the list both as itself and as
    an array. -/
theorem sorted_alike_iff_arrays_apart (ts : List JavaType)
    (h : ∀ t ∈ ts, t.isReference = true) :
    (∃! us, StablySorted order ts us) ∧
    (∀ ts' us vs, ts'.Perm ts → StablySorted order ts us → StablySorted order ts' vs →
      List.Forall₂ (fun t u => t.order u = .eq) us vs) ∧
    ((∀ ts' us vs, ts'.Perm ts → StablySorted order ts us → StablySorted order ts' vs →
        (us == vs) = true) ↔
      ∀ t ∈ ts, ∀ u ∈ ts, (t.reference? == u.reference?) = true → t.isArray = u.isArray) := by
  have hsame : ∀ us vs : List JavaType, (us == vs) = true ↔ us.map bare = vs.map bare :=
    fun us vs => list_beq_iff (fun t _ u => t.beq_iff u)
  have hclass : ∀ t u : JavaType,
      (t.reference? == u.reference?) = true ↔ t.bareClass = u.bareClass :=
    fun t u => option_beq_iff (fun r _ s => r.beq_iff s)
  simp only [hsame, hclass]
  refine ⟨existsUnique_stablySorted h, ?_, ?_, ?_⟩
  · intro ts' us vs hperm hus hvs
    have hclasses := map_bareClass_eq h hperm hus hvs
    rw [← List.forall₂_eq_eq_eq, List.forall₂_map_left_iff, List.forall₂_map_right_iff] at hclasses
    rw [List.forall₂_iff_zip] at hclasses ⊢
    refine ⟨hclasses.1, fun {t u} htu => ?_⟩
    have ht := h t (hus.perm.mem_iff.mp (List.of_mem_zip htu).1)
    have hu := h u (hperm.mem_iff.mp (hvs.perm.mem_iff.mp (List.of_mem_zip htu).2))
    rw [order_eq_compareOn ht hu, compareOn_eq_eq_iff]
    exact hclasses.2 htu
  · intro hall t ht u hu hclasses
    by_contra harray
    rcases exists_sorted_apart h ht hu hclasses harray with
      ⟨ts', ts'', vs, ws, hfront, hback, hvs, hws, hapart⟩
    rcases existsUnique_stablySorted h with ⟨us, hus, _⟩
    -- Both would have to be sorted like the list itself.
    apply hapart
    rw [← hall ts' us vs hfront hus hvs, hall ts'' us ws hback hus hws]
  · intro hapart ts' us vs hperm hus hvs
    refine map_eq_of_map_eq (map_bareClass_eq h hperm hus hvs) (fun t ht u hu hclasses => ?_)
    have ht := hus.perm.mem_iff.mp ht
    have hu := hperm.mem_iff.mp (hvs.perm.mem_iff.mp hu)
    exact (bare_eq_iff (h t ht) (h u hu)).mpr ⟨hclasses, hapart t ht u hu hclasses⟩

/-- Types with one name and different generic arguments, a class seen with two superclasses
    and an array. Any two ways to sort them stably, whatever the order, come to the same. -/
theorem sorted_alike_in_any_order :
    let ts : List JavaType :=
      [.reference ⟨"java.util", [], "List", [.javaLang "String"], none⟩ false,
        .reference (.javaLang "Runnable") true, .reference (.topLevel "java.util" "List") false,
        .reference ⟨"java.util", ["Map"], "Entry", [], some (.javaLang "Object")⟩ false]
    (∀ t ∈ ts, t.isReference = true) ∧ (∃ us, StablySorted order ts us) ∧
    ∀ ts' us vs, ts'.Perm ts → StablySorted order ts us → StablySorted order ts' vs →
      (us == vs) = true := by
  intro ts
  have hreference : ∀ t ∈ ts, t.isReference = true := by decide
  have hapart : ∀ t ∈ ts, ∀ u ∈ ts, (t.reference? == u.reference?) = true →
      t.isArray = u.isArray := by decide +kernel
  rcases sorted_alike_iff_arrays_apart ts hreference with ⟨hsorted, _, hiff⟩
  exact ⟨hreference, hsorted.exists, hiff.mpr hapart⟩

end JavaType

namespace ClassDecl

/-- A class that implements `Runnable` and the arrays of it, with one or the other
    first. -/
def Parts.runner (arraysFirst : Bool) : Parts :=
  { Parts.page with
    implementsTypes :=
      [.reference (.javaLang "Runnable") arraysFirst,
        .reference (.javaLang "Runnable") !arraysFirst] }

/-- Two classes that are the same implement `Runnable` and its arrays. Their implemented
    types are different types, those of the one are those of the other in another order,
    and sorting them stably does not bring them into one. -/
theorem same_classes_sorted_apart :
    ∃ c d, (Parts.runner false).build.outcome = .ok c ∧ (Parts.runner true).build.outcome = .ok d ∧
      (c == d) = true ∧ c.implementsTypes.Pairwise (fun t u => (t == u) = false) ∧
      d.implementsTypes.Perm c.implementsTypes ∧
      ∃ us vs, StablySorted JavaType.order c.implementsTypes us ∧
        StablySorted JavaType.order d.implementsTypes vs ∧ (us == vs) = false := by
  -- The types are on a par, so both lists are sorted as they stand.
  have hsorted : ∀ arraysFirst, StablySorted JavaType.order
      (Parts.runner arraysFirst).implementsTypes (Parts.runner arraysFirst).implementsTypes := by
    intro arraysFirst
    refine ⟨List.Perm.refl _, List.pairwise_pair.mpr ?_, fun _ _ => rfl⟩
    cases arraysFirst <;> decide +kernel
  refine ⟨_, _, rfl, rfl, rfl, List.pairwise_pair.mpr rfl, List.Perm.swap _ _ _, _, _,
    hsorted false, hsorted true, rfl⟩

end ClassDecl

end JavaSource
