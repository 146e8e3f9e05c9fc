import JavaSource.Proofs.ArrayTypes
import JavaSource.Proofs.ReferenceOrder

/-!
# One Name Extended and Implemented

A name stands for one class or for one interface. No class can therefore extend and
implement types of the same name, whatever generic arguments they are given.

The builder looks for the extended type among the implemented ones, and what it asks is
whether the types are the same. Types that are the same have one name, but the converse
fails. A qualified name does not tell an array from its elements, it does not tell where
the package ends and the enclosing types begin, and it says nothing of generic arguments.
Two types with one name that disagree in any of these pass for different types, and the
class is built.

That these three are all there is comes from the way a qualified name is put together:
once package and enclosing types agree, it determines the name of the class itself
(`Reference.fullName_inj`). So the types that are refused for being the same are exactly
those with one name that agree beyond it, and a caller whose types of one name always
agree beyond it finds the rule kept.

## Main definitions

* `JavaType.SharesName`: Two types are made of classes with one qualified name.
* `JavaType.AgreesBeyondName`: Two types agree in what the name leaves open.
* `ClassDecl.NamesApart`: The extended type shares its name with no implemented one.

## Theorems

* `JavaType.alike_iff_agreesBeyondName`: Among types with one name, the same types are
  those that agree beyond it.
* `ClassDecl.builds_iff_extends`: What is asked of the extended type.
* `ClassDecl.namesApart_iff`: A class has a name twice exactly if it was supplied twice.
* `ClassDecl.supers_told_apart_beyond_name`: Which types of one name a class can extend
  and implement, and when it can have none.
* `ClassDecl.one_name_extended_and_implemented`: Classes that extend and implement types
  of one name.
-/

namespace JavaSource

namespace JavaType

/-- Two types are made of classes with one qualified name. -/
def SharesName (t u : JavaType) : Prop :=
  ∃ r s, t.reference? = some r ∧ u.reference? = some s ∧ r.fullName = s.fullName

/-- Two types agree in what a qualified name leaves open: both are arrays or neither is,
    the packages of their classes end at the same place, and the generic arguments are
    the same. -/
structure AgreesBeyondName (t u : JavaType) : Prop where
  isArray : t.isArray = u.isArray
  package : ∀ r ∈ t.reference?, ∀ s ∈ u.reference?, r.package = s.package
  enclosing : ∀ r ∈ t.reference?, ∀ s ∈ u.reference?, r.enclosing = s.enclosing
  generics : ∀ r ∈ t.reference?, ∀ s ∈ u.reference?,
    List.Forall₂ Reference.Alike r.generics s.generics

variable {t u v : JavaType}

/-- Types of one name are the same exactly if they agree beyond it. -/
theorem alike_iff_agreesBeyondName (h : t.SharesName u) : t.Alike u ↔ t.AgreesBeyondName u := by
  rcases h with ⟨r, s, hr, hs, hname⟩
  constructor
  · rintro ⟨_, harray, hclass⟩
    rw [hr, hs, Option.rel_some_some, Reference.alike_iff] at hclass
    rcases hclass with ⟨hpackage, henclosing, _, hgenerics⟩
    refine ⟨harray, ?_, ?_, ?_⟩ <;> simpa [hr, hs]
  · rintro ⟨harray, hpackage, henclosing, hgenerics⟩
    simp only [hr, hs, Option.mem_some_iff, forall_eq'] at hpackage henclosing hgenerics
    -- The name of the class is what is left of the qualified name.
    have hsimple : r.name = s.name := (Reference.fullName_inj hpackage henclosing).mp hname
    refine ⟨?_, harray, ?_⟩
    · cases t <;> cases u <;> simp_all [kind, reference?]
    · rw [hr, hs, Option.rel_some_some]
      exact ⟨hpackage, henclosing, hsimple, hgenerics⟩

/-- The same types share their names, if they are made of classes at all. -/
theorem Alike.sharesName (h : t.Alike u) (ht : t.isReference = true) : t.SharesName u := by
  rw [isReference_eq_isSome, Option.isSome_iff_exists] at ht
  rcases ht with ⟨r, hr⟩
  have hclass := h.reference
  rw [hr] at hclass
  rcases hu : u.reference? with _ | s
  · rw [hu] at hclass
    cases hclass
  · rw [hu, Option.rel_some_some] at hclass
    have hname : r.fullName = s.fullName := by
      rw [← Reference.fullName_bare, (Reference.bare_eq_iff_alike r s).mpr hclass,
        Reference.fullName_bare]
    exact ⟨r, s, hr, hu, hname⟩

/-- Which of several types that are the same is kept makes no difference to the name. -/
theorem SharesName.congr (h : t.SharesName u) (hsame : u.bare = v.bare) : t.SharesName v := by
  rcases h with ⟨r, s, hr, hs, hname⟩
  have hreference : u.isReference = true := by
    rw [isReference_eq_isSome, hs, Option.isSome_some]
  have halike : u.Alike v := by
    rw [← beq_iff_alike, beq_iff]
    exact hsame
  rcases halike.sharesName hreference with ⟨s', v', hs', hv, hname'⟩
  rw [hs, Option.some.injEq] at hs'
  exact ⟨r, v', hr, hv, by rw [hname, hs', hname']⟩

end JavaType

namespace ClassDecl

/-- The extended type shares its name with no implemented type. -/
def NamesApart (extendsType : Option JavaType) (implementsTypes : List JavaType) : Prop :=
  ∀ t ∈ extendsType, ∀ u ∈ implementsTypes, ¬ t.SharesName u

namespace Parts

/-- The parts make a class. -/
def Builds (p : Parts) : Prop :=
  ∃ c, p.build.outcome = .ok c

theorem builds_iff_acceptable {p : Parts} : p.Builds ↔ p.Acceptable :=
  ⟨fun ⟨_, h⟩ => acceptable_of_build h, exists_build_of_acceptable⟩

end Parts

variable {p : Parts}

/-- The extended type is judged apart from all other parts but the implemented types. It
    is refused only for agreeing beyond the name with one that shares the name. -/
theorem builds_iff_extends :
    p.Builds ↔ { p with extendsType := none }.Builds ∧
      ∀ t ∈ p.extendsType, t.isReference = true ∧
        ∀ u ∈ p.implementsTypes, t.SharesName u → ¬ t.AgreesBeyondName u := by
  have hrule : ∀ t u : JavaType, t.isReference = true →
      (¬ t.Alike u ↔ (t.SharesName u → ¬ t.AgreesBeyondName u)) := by
    intro t u ht
    constructor
    · intro hdiffer hname hagrees
      exact hdiffer ((JavaType.alike_iff_agreesBeyondName hname).mpr hagrees)
    · intro hnames halike
      have hname := halike.sharesName ht
      exact hnames hname ((JavaType.alike_iff_agreesBeyondName hname).mp halike)
  rw [Parts.builds_iff_acceptable, Parts.builds_iff_acceptable]
  constructor
  · intro h
    refine ⟨{ h with extendsType := fun t ht => absurd ht (by simp) }, fun t ht => ?_⟩
    rcases h.extendsType t ht with ⟨hreference, hdiffer⟩
    exact ⟨hreference, fun u hu => (hrule t u hreference).mp (hdiffer u hu)⟩
  · rintro ⟨h, hextends⟩
    refine { h with extendsType := fun t ht => ?_ }
    rcases hextends t ht with ⟨hreference, hnames⟩
    exact ⟨hreference, fun u hu => (hrule t u hreference).mpr (hnames u hu)⟩

/-- The class has a name twice exactly if it was supplied twice: of several implemented
    types that are the same it does not matter which is kept. -/
theorem namesApart_iff {c : ClassDecl} (h : p.build.outcome = .ok c) :
    NamesApart c.extendsType c.implementsTypes ↔ NamesApart p.extendsType p.implementsTypes := by
  have hmade := madeOf_of_build h
  rw [hmade.extendsType, hmade.implementsTypes]
  constructor
  · intro hkept t ht u hu hname
    rcases exists_mem_firstOccurrences JavaType.beq_iff hu with ⟨v, hv, hsame⟩
    exact hkept t ht v hv (hname.congr hsame.symm)
  · intro hall t ht u hu
    exact hall t ht u (mem_of_mem_firstOccurrences hu)

/-- The extended type of a class is accepted exactly if it is made of a class and each
    implemented type that shares its name disagrees with it beyond the name, in being an
    array, in where the package ends or in the generic arguments. The name of the extended
    type is among those of the implemented types of the class exactly if it was among those
    supplied. If types that share a name always agree beyond it, then the extended type is
    accepted exactly if no implemented type has its name. -/
theorem supers_told_apart_beyond_name (p : Parts) :
    (p.Builds ↔ { p with extendsType := none }.Builds ∧
      ∀ t ∈ p.extendsType, t.isReference = true ∧
        ∀ u ∈ p.implementsTypes, t.SharesName u → ¬ t.AgreesBeyondName u) ∧
    (∀ c, p.build.outcome = .ok c →
      (NamesApart c.extendsType c.implementsTypes ↔
        NamesApart p.extendsType p.implementsTypes)) ∧
    ((∀ t ∈ p.extendsType, ∀ u ∈ p.implementsTypes, t.SharesName u → t.AgreesBeyondName u) →
      (p.Builds ↔ { p with extendsType := none }.Builds ∧
        (∀ t ∈ p.extendsType, t.isReference = true) ∧
          NamesApart p.extendsType p.implementsTypes)) := by
  refine ⟨builds_iff_extends, fun c h => namesApart_iff h, fun hagree => ?_⟩
  rw [builds_iff_extends]
  refine and_congr_right (fun _ => ?_)
  constructor
  · intro hextends
    refine ⟨fun t ht => (hextends t ht).1, fun t ht u hu hname => ?_⟩
    exact (hextends t ht).2 u hu hname (hagree t ht u hu hname)
  · rintro ⟨hreference, hapart⟩ t ht
    exact ⟨hreference t ht, fun u hu hname => absurd hname (hapart t ht u hu)⟩

/-- A class that extends one type and implements another. -/
def Parts.between (extended implemented : JavaType) : Parts :=
  { Parts.page with
    extendsType := some extended
    implementsTypes := [implemented] }

/-- A class is built that extends `Comparable<String>` and implements `Comparable`, another
    that extends `Runnable` and implements `Runnable[]`, and a third that extends the class
    `Entry` nested in `java.util.Map` and implements the class `Entry` of a package
    `java.util.Map`. -/
theorem one_name_extended_and_implemented :
    (∃ c, (Parts.between
        (.reference ⟨"java.lang", [], "Comparable", [.javaLang "String"], none⟩ false)
        (.reference (.javaLang "Comparable") false)).build.outcome = .ok c ∧
      ¬ NamesApart c.extendsType c.implementsTypes) ∧
    (∃ c, (Parts.between (.reference (.javaLang "Runnable") false)
        (.reference (.javaLang "Runnable") true)).build.outcome = .ok c ∧
      ¬ NamesApart c.extendsType c.implementsTypes) ∧
    ∃ c, (Parts.between (.reference ⟨"java.util", ["Map"], "Entry", [], none⟩ false)
        (.reference (.topLevel "java.util.Map" "Entry") false)).build.outcome = .ok c ∧
      ¬ NamesApart c.extendsType c.implementsTypes := by
  refine ⟨⟨_, rfl, fun hapart => ?_⟩, ⟨_, rfl, fun hapart => ?_⟩, ⟨_, rfl, fun hapart => ?_⟩⟩
  · exact hapart _ rfl _ List.mem_cons_self ⟨_, _, rfl, rfl, by decide +kernel⟩
  · exact hapart _ rfl _ List.mem_cons_self ⟨_, _, rfl, rfl, rfl⟩
  · exact hapart _ rfl _ List.mem_cons_self ⟨_, _, rfl, rfl, by decide +kernel⟩

end ClassDecl

end JavaSource
