import JavaSource.Proofs.Sameness

/-!
# The Order of References

References are ordered by qualified name, then by package, by enclosing types and
by generic arguments. The name of the class itself is not compared. It need not be:
the qualified name is the name with something put in front of it, and that something
is determined by the package and the enclosing types, whatever texts they are. So of
two references that agree so far the names agree as well (`fullName_inj`), and what
the order cannot tell apart is the same.

That the order is linear comes from the orders of texts and of lists of texts, which
are consulted one after the other, and for generic arguments by going down into them.
Transitivity alone does not carry over to comparisons made one after the other. Where
the first comparison puts the outer two of three references on a par, the second
decides between them, but between the middle one and either of them it decides only if
they are on a par as well. `OrdersChain` is transitivity with this added, and is what
the induction carries.

## Main definitions

* `OrdersChain`: What three comparisons have to do with each other in a linear order.

## Theorems

* `OrdersChain.then`: Comparisons that are made one after the other.
* `Reference.fullName_inj`: The qualified name determines the name, given what is in
  front of it.
* `Reference.order_swap`, `Reference.order_eq_iff`, `Reference.ordersChain_order`: The
  order turned round, when it is on a par, and along three references.
* `Reference.compare_linear_up_to_sameness`: The order of references is linear, and
  references are on a par in it exactly if they are the same.
-/

namespace JavaSource

/-- Three results of comparing the first of three values with the second, the second
    with the third and the first with the third. If the values do not descend, then the
    first is below the third, or all three are on a par. -/
def OrdersChain (ab bc ac : Ordering) : Prop :=
  ab.isLE = true → bc.isLE = true → ac = .lt ∨ ab = .eq ∧ bc = .eq ∧ ac = .eq

theorem OrdersChain.then {ab bc ac ab' bc' ac' : Ordering} (h : OrdersChain ab bc ac)
    (h' : OrdersChain ab' bc' ac') :
    OrdersChain (ab.then ab') (bc.then bc') (ac.then ac') := by
  intro hab hbc
  rw [Ordering.isLE_then_iff_and] at hab hbc
  rcases h hab.1 hbc.1 with hlt | ⟨rfl, rfl, rfl⟩
  · exact Or.inl (Ordering.then_eq_lt.mpr (Or.inl hlt))
  · -- The first comparisons leave everything to the second.
    have hab' : ab'.isLE = true := hab.2.resolve_left (by decide)
    have hbc' : bc'.isLE = true := hbc.2.resolve_left (by decide)
    exact h' hab' hbc'

theorem OrdersChain.isLE {ab bc ac : Ordering} (h : OrdersChain ab bc ac) (hab : ab.isLE = true)
    (hbc : bc.isLE = true) : ac.isLE = true := by
  rcases h hab hbc with rfl | ⟨_, _, rfl⟩
  · rfl
  · rfl

theorem ordersChain_compare {α : Type} [Ord α] [Std.TransOrd α] (a b c : α) :
    OrdersChain (compare a b) (compare b c) (compare a c) := by
  intro hab hbc
  rcases Ordering.isLE_iff_eq_lt_or_eq_eq.mp hab with hlt | heq
  · exact Or.inl (Std.TransCmp.lt_of_lt_of_isLE hlt hbc)
  · rcases Ordering.isLE_iff_eq_lt_or_eq_eq.mp hbc with hlt | heq'
    · exact Or.inl (Std.TransCmp.lt_of_isLE_of_lt hab hlt)
    · exact Or.inr ⟨heq, heq', Std.TransCmp.eq_trans heq heq'⟩

namespace Reference

/-- Of classes of one package and with the same enclosing types, the qualified names are
    equal only if the names are. -/
theorem fullName_inj {r s : Reference} (hpackage : r.package = s.package)
    (henclosing : r.enclosing = s.enclosing) : r.fullName = s.fullName ↔ r.name = s.name := by
  have hsplit : ∀ t : Reference, t.fullName =
      join (((if t.package.isEmpty then [] else [t.package]) ++ t.enclosing).foldl join "")
        t.name := by
    intro t
    unfold fullName segments
    rw [List.foldl_append, List.foldl_cons, List.foldl_nil]
  -- What is in front of the name is the same text on both sides.
  rw [hsplit r, hsplit s, hpackage, henclosing]
  exact String.append_right_inj _

theorem order_eq (r s : Reference) :
    order r s = (compare r.fullName s.fullName).then ((compare r.package s.package).then
      ((compare r.enclosing s.enclosing).then (orderAll r.generics s.generics))) := by
  cases r
  cases s
  rw [order]

/-! ### The order turned round -/

theorem orderAll_swap {rs : List Reference} (h : ∀ r ∈ rs, ∀ s, order r s = (order s r).swap)
    (ss : List Reference) : orderAll rs ss = (orderAll ss rs).swap := by
  induction rs generalizing ss with
  | nil => cases ss <;> rfl
  | cons r rs ih =>
      rw [List.forall_mem_cons] at h
      cases ss with
      | nil => rfl
      | cons s ss => rw [orderAll, orderAll, Ordering.swap_then, h.1 s, ih h.2 ss]

theorem order_swap (r s : Reference) : order r s = (order s r).swap := by
  induction r using Reference.inductionOn generalizing s with
  | step r ih =>
      rw [order_eq r s, order_eq s r, orderAll_swap ih, Ordering.swap_then, Ordering.swap_then,
        Ordering.swap_then, ← Std.OrientedOrd.eq_swap, ← Std.OrientedOrd.eq_swap,
        ← Std.OrientedOrd.eq_swap]

/-! ### References on a par -/

theorem orderAll_eq_iff {rs : List Reference}
    (h : ∀ r ∈ rs, ∀ s, order r s = .eq ↔ r.bare = s.bare) (ss : List Reference) :
    orderAll rs ss = .eq ↔ rs.map bare = ss.map bare := by
  induction rs generalizing ss with
  | nil => cases ss <;> simp [orderAll]
  | cons r rs ih =>
      rw [List.forall_mem_cons] at h
      cases ss with
      | nil => simp [orderAll]
      | cons s ss =>
          rw [orderAll, Ordering.then_eq_eq, h.1 s, ih h.2 ss, List.map_cons, List.map_cons,
            List.cons.injEq]

theorem order_eq_iff (r s : Reference) : order r s = .eq ↔ r.bare = s.bare := by
  induction r using Reference.inductionOn generalizing s with
  | step r ih =>
      have hbare : r.bare = s.bare ↔ r.package = s.package ∧ r.enclosing = s.enclosing ∧
          r.name = s.name ∧ r.generics.map bare = s.generics.map bare := by
        cases r
        cases s
        simp only [bare, bareAll_eq_map, mk.injEq, and_true]
      rw [order_eq, hbare]
      simp only [Ordering.then_eq_eq, Std.LawfulEqOrd.compare_eq_iff_eq, orderAll_eq_iff ih]
      -- The qualified names stand for the names once the rest agrees.
      constructor
      · rintro ⟨hname, hpackage, henclosing, hgenerics⟩
        exact ⟨hpackage, henclosing, (fullName_inj hpackage henclosing).mp hname, hgenerics⟩
      · rintro ⟨hpackage, henclosing, hname, hgenerics⟩
        exact ⟨(fullName_inj hpackage henclosing).mpr hname, hpackage, henclosing, hgenerics⟩

/-! ### Three references -/

theorem ordersChain_orderAll {rs : List Reference}
    (h : ∀ r ∈ rs, ∀ s t, OrdersChain (order r s) (order s t) (order r t))
    (ss ts : List Reference) :
    OrdersChain (orderAll rs ss) (orderAll ss ts) (orderAll rs ts) := by
  induction rs generalizing ss ts with
  | nil =>
      -- The empty list is below all others, so only what is above it could descend.
      intro _ hbc
      cases ss with
      | nil =>
          cases ts with
          | nil => exact Or.inr ⟨rfl, rfl, rfl⟩
          | cons t ts => exact Or.inl rfl
      | cons s ss =>
          cases ts with
          | nil => cases hbc
          | cons t ts => exact Or.inl rfl
  | cons r rs ih =>
      rw [List.forall_mem_cons] at h
      intro hab hbc
      cases ss with
      | nil => cases hab
      | cons s ss =>
          cases ts with
          | nil => cases hbc
          | cons t ts => exact (h.1 s t).then (ih h.2 ss ts) hab hbc

theorem ordersChain_order (r s t : Reference) :
    OrdersChain (order r s) (order s t) (order r t) := by
  induction r using Reference.inductionOn generalizing s t with
  | step r ih =>
      rw [order_eq r s, order_eq s t, order_eq r t]
      have hname := ordersChain_compare r.fullName s.fullName t.fullName
      have hpackage := ordersChain_compare r.package s.package t.package
      have henclosing := ordersChain_compare r.enclosing s.enclosing t.enclosing
      have hgenerics := ordersChain_orderAll ih s.generics t.generics
      exact hname.then (hpackage.then (henclosing.then hgenerics))

instance : Std.OrientedOrd Reference where
  eq_swap {r s} := order_swap r s

instance : Std.TransOrd Reference where
  isLE_trans {r s t} := (ordersChain_order r s t).isLE

instance : Std.LawfulBEqOrd Reference where
  compare_eq_iff_beq {r s} := by
    rw [beq_iff]
    exact order_eq_iff r s

/-- The order of references is turned round when its sides are changed, it is transitive,
    and references are on a par in it exactly if they are the same: if package, enclosing
    types and name are equal and the generic arguments agree in the same way, whatever is
    known about superclasses. -/
theorem compare_linear_up_to_sameness (a b c : Reference) :
    compare a b = (compare b a).swap ∧
    (compare a b ≠ .gt → compare b c ≠ .gt → compare a c ≠ .gt) ∧
    (compare a b = .eq ↔ (a == b) = true) ∧
    ((a == b) = true ↔ a.Alike b) := by
  refine ⟨Std.OrientedOrd.eq_swap, ?_, Std.LawfulBEqOrd.compare_eq_iff_beq, ?_⟩
  · intro hab hbc
    have hab := Ordering.ne_gt_iff_isLE.mp hab
    have hbc := Ordering.ne_gt_iff_isLE.mp hbc
    exact Ordering.ne_gt_iff_isLE.mpr (Std.TransOrd.isLE_trans hab hbc)
  · rw [beq_iff, bare_eq_iff_alike]

/-- The class `a.b.C`, nested in a class of the package `a`. -/
def viaClass : Reference :=
  ⟨"a", ["b"], "C", [javaLang "Object"], some (javaLang "Error")⟩

/-- The class `a.b.C`, of the package `a.b`. -/
def viaPackage : Reference :=
  ⟨"a.b", [], "C", [javaLang "Object"], none⟩

theorem compare_linear_same_name :
    viaClass.fullName = viaPackage.fullName ∧
    compare ⟨"", [""], "a", [], none⟩ viaClass ≠ .gt ∧ compare viaClass viaPackage ≠ .gt ∧
    compare ⟨"", [""], "a", [], none⟩ viaPackage ≠ .gt ∧ ¬ viaClass.Alike viaPackage ∧
    (viaClass == { viaClass with declaredSuper := none }) = true ∧
    compare viaClass { viaClass with declaredSuper := none } = .eq := by
  have hfirst : compare ⟨"", [""], "a", [], none⟩ viaClass ≠ .gt := by decide +kernel
  have hsecond : compare viaClass viaPackage ≠ .gt := by decide +kernel
  have hdiffer : (viaClass == viaPackage) = false := by decide +kernel
  have hsame : (viaClass == { viaClass with declaredSuper := none }) = true := by decide +kernel
  refine ⟨by decide +kernel, hfirst, hsecond, ?_, ?_, hsame, ?_⟩
  · exact (compare_linear_up_to_sameness _ _ _).2.1 hfirst hsecond
  · rw [← (compare_linear_up_to_sameness viaClass viaPackage viaPackage).2.2.2, hdiffer]
    decide
  · exact (compare_linear_up_to_sameness _ _ viaClass).2.2.1.mpr hsame

end Reference

end JavaSource
