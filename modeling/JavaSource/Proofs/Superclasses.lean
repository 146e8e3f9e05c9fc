import JavaSource.Reference.Hierarchy

/-!
# Chains of Superclasses

A question about the classes above a class is answered by going up the chain of its
superclasses. At each step the superclass that the reference carries is believed, and
where there is none a table of well-known classes is asked; after `depthLimit` classes
the search gives up. Here the chain is described by itself (`ancestor`), without a
limit, and compared with what the search sees of it.

Every chain ends. The superclasses that references carry are nested one in another, so
there are finitely many of them, and the table leads from a class to one that carries
none. Once the table is asked it is therefore asked to the end, and its longest chain
has six classes (`ancestor_of_undeclared`). So the length of a chain is known up to
these six from the depth to which superclasses are nested, and up to a depth of 58 the
search sees all of it. At 59 it does not (`tower_isSubclassOf_object`).

The chain also shows where an expectation about the two questions fails. An exception
that need not be declared is below `RuntimeException`, which is below `Exception`, so it
should be an exception. But `RuntimeException` can be the last class that is looked at.
It can also be declared to be below some other class, and a declaration counts for more
than the table. In all other cases the expectation is true.

## Main definitions

* `Reference.ancestor`: The class so many steps above a class.
* `Reference.declaredDepth`: How many superclasses are nested in a reference.
* `Reference.tower`: A class so many steps below another, by nested superclasses.
* `Reference.StopsShort`: The way up comes to `RuntimeException` and not to `Exception`.

## Theorems

* `Reference.meets_iff`: A search of so many classes sees that much of the chain.
* `Reference.ancestor_declaredDepth`: Every chain ends, and where.
* `Reference.isSubclassOf_sees_whole_chain`: Up to a depth of 58 the search answers for
  the whole chain.
* `Reference.tower_isSubclassOf_object`: The search does not see the end of a chain that
  is nested deeper and ends in the longest chain of the table.
* `Reference.unchecked_is_exception_unless_stopped`: When an exception that need not be
  declared is an exception.
* `Reference.unchecked_without_exception`: Two that are not.
-/

namespace JavaSource

namespace Reference

/-- The class a number of steps above a class, if the chain of superclasses goes that
    far. -/
def ancestor : Nat → Reference → Option Reference
  | 0, r => some r
  | n + 1, r => r.superclass.bind (ancestor n)

/-- The number of superclasses that are nested in a reference. -/
def declaredDepth : Reference → Nat
  | ⟨_, _, _, _, none⟩ => 0
  | ⟨_, _, _, _, some s⟩ => declaredDepth s + 1

theorem declaredDepth_of_none {r : Reference} (h : r.declaredSuper = none) :
    r.declaredDepth = 0 := by
  cases r
  subst h
  rfl

theorem declaredDepth_of_some {r s : Reference} (h : r.declaredSuper = some s) :
    r.declaredDepth = s.declaredDepth + 1 := by
  cases r
  subst h
  rfl

theorem superclass_of_some {r s : Reference} (h : r.declaredSuper = some s) :
    r.superclass = some s := by
  unfold superclass
  rw [h]

theorem superclass_of_none {r : Reference} (h : r.declaredSuper = none) :
    r.superclass = wellKnownSuper r.fullName := by
  unfold superclass
  rw [h]

/-! ### The chain -/

theorem ancestor_succ_of_superclass {r s : Reference} (h : r.superclass = some s) (n : Nat) :
    r.ancestor (n + 1) = s.ancestor n := by
  rw [ancestor, h, Option.bind_some]

/-- The chain above a class of the chain is the rest of it. -/
theorem ancestor_add {r s : Reference} {m : Nat} (h : r.ancestor m = some s) (n : Nat) :
    r.ancestor (m + n) = s.ancestor n := by
  induction m generalizing r with
  | zero =>
      rw [ancestor, Option.some.injEq] at h
      rw [h, Nat.zero_add]
  | succ m ih =>
      rw [ancestor, Option.bind_eq_some_iff] at h
      rcases h with ⟨t, ht, h⟩
      rw [Nat.succ_add, ancestor_succ_of_superclass ht, ih h]

theorem ancestor_past {r s t : Reference} {k : Nat} (place : r.ancestor k = some s)
    (h : s.superclass = some t) (j : Nat) : r.ancestor (k + 1 + j) = t.ancestor j := by
  rw [Nat.add_assoc, ancestor_add place, Nat.add_comm 1, ancestor_succ_of_superclass h]

/-- Above the end of a chain there is nothing. -/
theorem ancestor_eq_none_of_le {r : Reference} {m n : Nat} (h : r.ancestor m = none)
    (hle : m ≤ n) : r.ancestor n = none := by
  induction m generalizing r n with
  | zero => cases h
  | succ m ih =>
      cases n with
      | zero => omega
      | succ n =>
          rw [ancestor, Option.bind_eq_none_iff] at h ⊢
          intro s hs
          exact ih (h s hs) (by omega)

/-- A search of so many classes sees that much of the chain. -/
theorem meets_iff {q : String} {n : Nat} {r : Reference} :
    meets q n r = true ↔ ∃ k < n, ∃ s, r.ancestor k = some s ∧ s.fullName = q := by
  induction n generalizing r with
  | zero =>
      constructor
      · intro h
        cases h
      · rintro ⟨k, hk, _⟩
        omega
  | succ n ih =>
      rw [meets, Bool.or_eq_true, beq_iff_eq]
      constructor
      · rintro (hname | habove)
        · exact ⟨0, by omega, r, rfl, hname⟩
        · cases hsuper : r.superclass with
          | none =>
              rw [hsuper] at habove
              cases habove
          | some t =>
              rw [hsuper] at habove
              rcases ih.mp habove with ⟨k, hk, s, hs, hname⟩
              exact ⟨k + 1, by omega, s, by rw [ancestor_succ_of_superclass hsuper, hs], hname⟩
      · rintro ⟨k, hk, s, hs, hname⟩
        cases k with
        | zero =>
            rw [ancestor, Option.some.injEq] at hs
            exact Or.inl (by rw [hs, hname])
        | succ k =>
            rw [ancestor, Option.bind_eq_some_iff] at hs
            rcases hs with ⟨t, ht, hs⟩
            refine Or.inr ?_
            rw [ht]
            exact ih.mpr ⟨k, by omega, s, hs, hname⟩

theorem meets_of_le {q : String} {m n : Nat} {r : Reference} (h : meets q m r = true)
    (hle : m ≤ n) : meets q n r = true := by
  rcases meets_iff.mp h with ⟨k, hk, hfound⟩
  exact meets_iff.mpr ⟨k, by omega, hfound⟩

/-! ### The end of the chain -/

theorem ancestor_of_mem_wellKnownSupers :
    ∀ p ∈ wellKnownSupers, (p.2.ancestor 5).isNone = true := by
  decide +kernel

/-- A class that carries no superclass has at most five classes above it, all of them from
    the table. -/
theorem ancestor_of_undeclared {r : Reference} (h : r.declaredSuper = none) :
    r.ancestor 6 = none := by
  rw [ancestor, superclass_of_none h, Option.bind_eq_none_iff]
  intro s hs
  rcases List.lookup_eq_some_iff.mp hs with ⟨before, after, htable, _⟩
  have hmem : (r.fullName, s) ∈ wellKnownSupers := by
    rw [htable]
    exact List.mem_append_right before List.mem_cons_self
  exact Option.isNone_iff_eq_none.mp (ancestor_of_mem_wellKnownSupers _ hmem)

/-- Every chain ends, at most six classes above the superclasses that are nested. -/
theorem ancestor_declaredDepth (r : Reference) : r.ancestor (r.declaredDepth + 6) = none := by
  -- By induction on the depth: the reference itself is the outermost of those nested.
  induction hdepth : r.declaredDepth generalizing r with
  | zero =>
      cases hsuper : r.declaredSuper with
      | none => exact ancestor_of_undeclared hsuper
      | some s =>
          rw [declaredDepth_of_some hsuper] at hdepth
          omega
  | succ n ih =>
      cases hsuper : r.declaredSuper with
      | none =>
          rw [declaredDepth_of_none hsuper] at hdepth
          omega
      | some s =>
          rw [declaredDepth_of_some hsuper] at hdepth
          rw [Nat.succ_add, ancestor_succ_of_superclass (superclass_of_some hsuper)]
          exact ih s (by omega)

/-! ### What the search sees -/

/-- Every chain of superclasses ends. If at most 58 superclasses are nested in a reference,
    then it is taken to be below a class exactly if its chain, the reference included, has
    a class of that name. -/
theorem isSubclassOf_sees_whole_chain (r : Reference) :
    (∃ n, r.ancestor n = none) ∧
    (r.declaredDepth ≤ 58 → ∀ q, r.isSubclassOf q = true ↔
      ∃ n s, r.ancestor n = some s ∧ s.fullName = q) := by
  refine ⟨⟨_, r.ancestor_declaredDepth⟩, fun hdepth q => ?_⟩
  unfold isSubclassOf
  rw [meets_iff]
  constructor
  · rintro ⟨n, _, s, hs, hname⟩
    exact ⟨n, s, hs, hname⟩
  · rintro ⟨n, s, hs, hname⟩
    rcases Nat.lt_or_ge n depthLimit with hwithin | hbeyond
    · exact ⟨n, hwithin, s, hs, hname⟩
    · -- The class would be above the end of the chain.
      have hend : r.declaredDepth + 6 ≤ n := by
        unfold depthLimit at hbeyond
        omega
      rw [ancestor_eq_none_of_le r.ancestor_declaredDepth hend] at hs
      cases hs

/-- A class that is so many steps below another, by superclasses that are nested. -/
def tower (base : Reference) : Nat → Reference
  | 0 => base
  | n + 1 => ⟨"tower", [], "Level", [], some (tower base n)⟩

theorem declaredDepth_tower (base : Reference) (n : Nat) :
    (tower base n).declaredDepth = base.declaredDepth + n := by
  induction n with
  | zero => rfl
  | succ n ih => rw [tower, declaredDepth, ih, Nat.add_assoc]

theorem ancestor_tower (base : Reference) (n k : Nat) :
    (tower base n).ancestor (n + k) = base.ancestor k := by
  induction n with
  | zero => rw [tower, Nat.zero_add]
  | succ n ih =>
      have hsuper : (tower base (n + 1)).superclass = some (tower base n) := rfl
      rw [Nat.succ_add, ancestor_succ_of_superclass hsuper, ih]

theorem ancestor_numberFormatException :
    (javaLang "NumberFormatException").ancestor 5 = some (javaLang "Object") := rfl

theorem isSubclassOf_sees_whole_tower :
    (tower (javaLang "NumberFormatException") 58).declaredDepth ≤ 58 ∧
    (tower (javaLang "NumberFormatException") 58).isSubclassOf "java.lang.Object" = true ∧
    (tower (javaLang "NumberFormatException") 58).isSubclassOf "java.lang.Error" = false := by
  have hdepth : (tower (javaLang "NumberFormatException") 58).declaredDepth ≤ 58 := by
    rw [declaredDepth_tower]
    decide
  refine ⟨hdepth, ?_, by decide +kernel⟩
  refine ((isSubclassOf_sees_whole_chain _).2 hdepth _).mpr ⟨58 + 5, javaLang "Object", ?_, rfl⟩
  rw [ancestor_tower, ancestor_numberFormatException]

/-- The levels of a tower use up the search, and nothing else. -/
theorem meets_tower {q : String} (hq : q ≠ "tower.Level") (base : Reference) (m n : Nat) :
    meets q m (tower base n) = meets q (m - n) base := by
  induction n generalizing m with
  | zero => rfl
  | succ n ih =>
      cases m with
      | zero => rw [Nat.zero_sub, meets, meets]
      | succ m =>
          have hname : (tower base (n + 1)).fullName = "tower.Level" := rfl
          have hother : ("tower.Level" == q) = false := beq_false_of_ne hq.symm
          have hsuper : (tower base (n + 1)).superclass = some (tower base n) := rfl
          rw [meets, hname, hother, hsuper, Bool.false_or, Nat.add_sub_add_right]
          exact ih m

/-- The depth of 58 is the greatest. The longest chain of the table ends in `Object`; from
    a class below it the search comes to that end exactly if at most 58 superclasses are
    nested. -/
theorem tower_isSubclassOf_object (n : Nat) :
    (tower (javaLang "NumberFormatException") n).declaredDepth = n ∧
    (tower (javaLang "NumberFormatException") n).ancestor (n + 5) = some (javaLang "Object") ∧
    ((tower (javaLang "NumberFormatException") n).isSubclassOf "java.lang.Object" = true ↔
      n ≤ 58) := by
  refine ⟨?_, ?_, ?_⟩
  · rw [declaredDepth_tower, declaredDepth_of_none rfl, Nat.zero_add]
  · rw [ancestor_tower, ancestor_numberFormatException]
  · have htower : (tower (javaLang "NumberFormatException") n).isSubclassOf "java.lang.Object" =
        meets "java.lang.Object" (depthLimit - n) (javaLang "NumberFormatException") :=
      meets_tower (by decide) _ _ _
    rw [htower]
    constructor
    · intro h
      rcases Nat.lt_or_ge 58 n with hdeep | hle
      · have hfive : meets "java.lang.Object" 5 (javaLang "NumberFormatException") = true := by
          refine meets_of_le h ?_
          unfold depthLimit
          omega
        exact absurd hfive (by decide +kernel)
      · exact hle
    · intro hle
      have hsix : meets "java.lang.Object" 6 (javaLang "NumberFormatException") = true := by
        decide +kernel
      refine meets_of_le hsix ?_
      unfold depthLimit
      omega

/-! ### Exceptions that need not be declared -/

theorem isUnchecked_iff {r : Reference} :
    r.isUnchecked = true ↔ ∃ k < depthLimit, ∃ s, r.ancestor k = some s ∧
      s.fullName = "java.lang.RuntimeException" :=
  meets_iff

theorem isException_iff {r : Reference} :
    r.isException = true ↔ ∃ k < depthLimit, ∃ s, r.ancestor k = some s ∧
      s.fullName = "java.lang.Exception" :=
  meets_iff

/-- `RuntimeException` is below `Exception`, if it is not declared otherwise. -/
theorem isException_of_undeclared {r s : Reference} {k : Nat} (hk : k + 1 < depthLimit)
    (place : r.ancestor k = some s) (name : s.fullName = "java.lang.RuntimeException")
    (h : s.declaredSuper = none) : r.isException = true := by
  have hsuper : s.superclass = some (javaLang "Exception") := by
    rw [superclass_of_none h, name]
    rfl
  exact isException_iff.mpr ⟨k + 1, hk, javaLang "Exception", ancestor_past place hsuper 0, rfl⟩

/-- The way up from a class comes to `RuntimeException` at some place, but up to that place
    not to `Exception`, and not after it either: it is the last place that is looked at, or
    `RuntimeException` is declared to be below a class from which one does not come to
    `Exception` in the places that are left. -/
inductive StopsShort (r : Reference) : Prop where
  | cut {k : Nat} {s : Reference} (last : k + 1 = depthLimit) (place : r.ancestor k = some s)
      (name : s.fullName = "java.lang.RuntimeException")
      (below : ∀ j t, j ≤ k → r.ancestor j = some t → t.fullName ≠ "java.lang.Exception")
  | redeclared {k : Nat} {s t : Reference} (within : k + 1 < depthLimit)
      (place : r.ancestor k = some s) (name : s.fullName = "java.lang.RuntimeException")
      (below : ∀ j u, j ≤ k → r.ancestor j = some u → u.fullName ≠ "java.lang.Exception")
      (declared : s.declaredSuper = some t)
      (above : ∀ j u, k + 1 + j < depthLimit → t.ancestor j = some u →
        u.fullName ≠ "java.lang.Exception")

theorem StopsShort.isException_eq_false {r : Reference} (h : r.StopsShort) :
    r.isException = false := by
  rw [← Bool.not_eq_true, isException_iff]
  rintro ⟨j, hj, u, hu, hname⟩
  cases h with
  | cut last place name below => exact below j u (by omega) hu hname
  | @redeclared k s t within place name below declared above =>
      by_cases hle : j ≤ k
      · exact below j u hle hu hname
      · -- Past the place, the chain is the one above the declared superclass.
        have habove := ancestor_past place (superclass_of_some declared) (j - (k + 1))
        have hplace : k + 1 + (j - (k + 1)) = j := by omega
        rw [hplace, hu] at habove
        exact above (j - (k + 1)) u (by omega) habove.symm hname

theorem stopsShort_of_isUnchecked {r : Reference} (hunchecked : r.isUnchecked = true)
    (hexception : r.isException = false) : r.StopsShort := by
  rcases isUnchecked_iff.mp hunchecked with ⟨k, hk, s, hs, hname⟩
  rw [← Bool.not_eq_true, isException_iff] at hexception
  have hnone : ∀ j u, j < depthLimit → r.ancestor j = some u →
      u.fullName ≠ "java.lang.Exception" := by
    intro j u hj hu hname
    exact hexception ⟨j, hj, u, hu, hname⟩
  have hbelow : ∀ j u, j ≤ k → r.ancestor j = some u → u.fullName ≠ "java.lang.Exception" := by
    intro j u hj
    exact hnone j u (by omega)
  by_cases hlast : k + 1 = depthLimit
  · exact .cut hlast hs hname hbelow
  · have hwithin : k + 1 < depthLimit := by omega
    cases hsuper : s.declaredSuper with
    | none =>
        -- The table would have led to `Exception`, in a place that is looked at.
        exact absurd (isException_iff.mp (isException_of_undeclared hwithin hs hname hsuper))
          hexception
    | some t =>
        refine .redeclared hwithin hs hname hbelow hsuper (fun j u hj hu => ?_)
        refine hnone (k + 1 + j) u hj ?_
        rw [ancestor_past hs (superclass_of_some hsuper), hu]

/-- An exception that need not be declared is an exception unless the way up from it stops
    short. It does not if some `RuntimeException` above it, the last place apart, is not
    declared to be below another class. -/
theorem unchecked_is_exception_unless_stopped (r : Reference) :
    (r.isUnchecked = true → (r.isException = true ↔ ¬ r.StopsShort)) ∧
    ∀ k s, k + 1 < depthLimit → r.ancestor k = some s →
      s.fullName = "java.lang.RuntimeException" → s.declaredSuper = none →
        r.isUnchecked = true ∧ r.isException = true := by
  constructor
  · intro hunchecked
    constructor
    · intro hexception hshort
      rw [hshort.isException_eq_false] at hexception
      cases hexception
    · intro hshort
      rw [← Bool.not_eq_false]
      exact fun hexception => hshort (stopsShort_of_isUnchecked hunchecked hexception)
  · intro k s hk hs hname hsuper
    exact ⟨isUnchecked_iff.mpr ⟨k, by omega, s, hs, hname⟩,
      isException_of_undeclared hk hs hname hsuper⟩

theorem unchecked_is_exception_in_tower :
    (tower (javaLang "ArithmeticException") 61).isUnchecked = true ∧
    (tower (javaLang "ArithmeticException") 61).isException = true ∧
    ¬ (tower (javaLang "ArithmeticException") 61).StopsShort := by
  -- `RuntimeException` is in the last place but one.
  have hboth := (unchecked_is_exception_unless_stopped
    (tower (javaLang "ArithmeticException") 61)).2 62 (javaLang "RuntimeException") (by decide)
    rfl rfl rfl
  exact ⟨hboth.1, hboth.2, ((unchecked_is_exception_unless_stopped _).1 hboth.1).mp hboth.2⟩

/-- `RuntimeException`, declared to be below `Object`, and a class 63 steps below
    `RuntimeException`. Neither has to be declared, and neither is an exception. -/
theorem unchecked_without_exception :
    (⟨"java.lang", [], "RuntimeException", [], some (javaLang "Object")⟩ :
      Reference).isUnchecked = true ∧
    (⟨"java.lang", [], "RuntimeException", [], some (javaLang "Object")⟩ :
      Reference).isException = false ∧
    (tower (javaLang "RuntimeException") 63).isUnchecked = true ∧
    (tower (javaLang "RuntimeException") 63).isException = false := by
  decide +kernel

end Reference

end JavaSource
