import JavaSource.Proofs.FirstOccurrences
import JavaSource.Proofs.Refusals

/-!
# Which Methods and Classes Can Be Built

The builders of methods and of classes check a dozen parts that depend on each
other, one after the other. This module says what comes of it without following
the checks: which parts are accepted, what kind of error the others meet with,
and that a finished declaration has the parts it was given.

`Acceptable` lists the rules in the order of the parts, not of the checks. It is
about the parts as they were supplied: where the program looks at a set, a rule
that does not tell the same types apart is a rule about all types of the list.
The rule for declared exceptions is not of that sort. Whether a type is an
exception is decided by what it knows about its superclass, which sameness
overlooks, so the rule is about the types that are kept and about no others.

`Lacks` describes the refusals for an absent part. It is not just the absence of
a part, since a rule that is checked earlier may be broken as well and is then
what the error is about.

## Main definitions

* `Method.Parts.Acceptable`, `ClassDecl.Parts.Acceptable`: The parts obey the
  rules.
* `Method.Parts.Lacks`, `ClassDecl.Parts.Lacks`: A part is absent, and no rule is
  broken that comes before it.
* `Method.MadeOf`, `ClassDecl.MadeOf`: A declaration has the parts.

## Theorems

* `Method.missesIff_build`, `ClassDecl.missesIff_build`: Which parts are refused
  because one is absent.
* `Method.method_from_parts`: Which methods can be built, what the error is
  otherwise, and what a method is made of.
* `ClassDecl.class_from_parts`: The same for classes.
-/

namespace JavaSource

open Build

/-! ### Methods -/

namespace Method

namespace Parts

/-- The parts of a method obey the rules. -/
structure Acceptable (p : Parts) : Prop where
  name : (⟨p.name⟩ : Identifier).WellFormed
  scope : p.scope.isSome = true
  notLocal : p.scope ≠ some .localScope
  returnType : p.returnType.isSome = true
  overridable : p.isAbstract = true →
    p.isFinal = false ∧ p.isStatic = false ∧ p.scope ≠ some .privateScope
  returns : p.returnType ≠ some .void → p.returnExpr.isSome = true
  returnExpr : ∀ e ∈ p.returnExpr, ∀ t ∈ p.returnType, e.type.Alike t
  arguments : ∀ v ∈ p.arguments, v.isDeclaration = true
  -- Only the first of several types that are the same is looked at.
  throwsTypes : ∀ before t after, p.throwsTypes = before ++ t :: after →
    (∀ u ∈ before, (u == t) = false) →
      ∃ r, t.reference? = some r ∧ r.isException = true ∧ r.isUnchecked = false

/-- There is no name, or there is a good one and the scope or the type of the value
    is absent. -/
def Lacks (p : Parts) : Prop :=
  p.name = "" ∨
    (⟨p.name⟩ : Identifier).WellFormed ∧ (p.scope = none ∨ p.returnType = none)

theorem throwsSet_eq (p : Parts) : p.throwsSet = firstOccurrences p.throwsTypes :=
  eraseDups_eq_firstOccurrences JavaType.beq_iff

theorem annotationSet_eq (p : Parts) :
    p.annotationSet =
      if p.isOverride then
        (firstOccurrences p.annotations).filter (fun a => !(a == .overrideMarker)) ++
          [.overrideMarker]
      else firstOccurrences p.annotations := by
  rw [annotationSet, eraseDups_eq_firstOccurrences AnnotationExpr.beq_iff]

theorem forall_mem_throwsSet {p : Parts} {P : JavaType → Prop} :
    (∀ t ∈ p.throwsSet, P t) ↔
      ∀ before t after, p.throwsTypes = before ++ t :: after →
        (∀ u ∈ before, (u == t) = false) → P t := by
  rw [throwsSet_eq, forall_mem_firstOccurrences]

end Parts

/-- A method has the parts it was made of. Annotations and declared exceptions
    stand where they first stood; the mark of an overriding method stands last. -/
structure MadeOf (m : Method) (p : Parts) : Prop where
  scope : p.scope = some m.scope
  returnType : p.returnType = some m.returnType
  name : m.identifier.name = p.name
  annotations : m.annotations =
    if p.isOverride then
      (firstOccurrences p.annotations).filter (fun a => !(a == .overrideMarker)) ++
        [.overrideMarker]
    else firstOccurrences p.annotations
  throwsTypes : m.throwsTypes = firstOccurrences p.throwsTypes
  arguments : m.arguments = p.arguments
  isStatic : m.isStatic = p.isStatic
  isFinal : m.isFinal = p.isFinal
  isAbstract : m.isAbstract = p.isAbstract
  body : m.body = p.body
  returnExpr : m.returnExpr = p.returnExpr
  isOverride : m.isOverride = p.isOverride

variable {p : Parts}

theorem acceptable_of_build {m : Method} (h : p.build.outcome = .ok m) : p.Acceptable := by
  rcases build_eq_ok.mp h with ⟨identifier, hname, scope, hscope, returnType, htype, hlocal,
    habstract, ⟨hreturns, hreturned⟩, harguments, hthrows, _⟩
  rcases Identifier.derive_eq_ok_iff.mp hname with ⟨rfl, hname⟩
  exact
    { name := hname
      scope := by rw [hscope]; rfl
      notLocal := by simpa [hscope] using hlocal
      returnType := by rw [htype]; rfl
      overridable := by simpa [hscope] using habstract
      returns := by
        intro hvoid
        rw [Option.isSome_iff_ne_none]
        intro hnone
        exact hvoid (by rw [htype, hreturns hnone])
      returnExpr := by
        intro e he t ht
        rw [htype, Option.mem_some_iff] at ht
        rw [← ht, ← JavaType.beq_iff_alike]
        exact hreturned e he
      arguments := harguments
      throwsTypes := Parts.forall_mem_throwsSet.mp hthrows }

theorem exists_build_of_acceptable (h : p.Acceptable) : ∃ m, p.build.outcome = .ok m := by
  rcases Option.isSome_iff_exists.mp h.scope with ⟨scope, hscope⟩
  rcases Option.isSome_iff_exists.mp h.returnType with ⟨returnType, htype⟩
  have hlocal := h.notLocal
  have habstract := h.overridable
  simp only [hscope, ne_eq, Option.some.injEq] at hlocal habstract
  have hreturns : p.returnExpr = none → returnType = .void := by
    intro hnone
    by_contra hvoid
    have hsome := h.returns (by simpa [htype] using hvoid)
    rw [hnone] at hsome
    cases hsome
  have hreturned : ∀ e ∈ p.returnExpr, (e.type == returnType) = true := by
    intro e he
    rw [JavaType.beq_iff_alike]
    exact h.returnExpr e he returnType htype
  have hname : (Identifier.derive .method p.name).outcome = .ok ⟨p.name⟩ :=
    Identifier.derive_eq_ok_iff.mpr ⟨rfl, h.name⟩
  exact ⟨_, build_eq_ok.mpr ⟨_, hname, scope, hscope, returnType, htype, hlocal, habstract,
    ⟨hreturns, hreturned⟩, h.arguments, Parts.forall_mem_throwsSet.mpr h.throwsTypes, rfl⟩⟩

/-- What a method is refused for is an absent part exactly if the parts lack
    one. -/
theorem missesIff_build (p : Parts) : p.build.MissesIff p.Lacks := by
  refine Identifier.missesIff_derive_bind (fun _ => ?_)
  refine (missesIff_required Or.inl).bind (fun scope hscope => ?_)
  refine (missesIff_required Or.inr).bind (fun returnType htype => ?_)
  -- All parts are there. The rest is rules.
  have hlacks : ¬ (p.scope = none ∨ p.returnType = none) := by
    rw [outcome_required_eq_ok.mp hscope, outcome_required_eq_ok.mp htype]
    simp
  refine NeverMissing.missesIff ?_ hlacks
  refine NeverMissing.bind (neverMissing_rejectIf _ _ _) (fun _ => ?_)
  refine NeverMissing.bind (neverMissing_rejectIf _ _ _) (fun _ => ?_)
  refine NeverMissing.bind (neverMissing_checkReturn _ _) (fun _ => ?_)
  refine NeverMissing.bind (neverMissing_checkArguments _) (fun _ => ?_)
  refine NeverMissing.bind (neverMissing_checkThrows _) (fun _ => ?_)
  exact neverMissing_pure _

theorem madeOf_of_build {m : Method} (h : p.build.outcome = .ok m) : m.MadeOf p := by
  rcases build_eq_ok.mp h with ⟨identifier, hname, scope, hscope, returnType, htype, _, _, _, _, _,
    rfl⟩
  rcases Identifier.derive_eq_ok_iff.mp hname with ⟨rfl, _⟩
  exact
    { scope := hscope
      returnType := htype
      name := rfl
      annotations := p.annotationSet_eq
      throwsTypes := p.throwsSet_eq
      arguments := rfl
      isStatic := rfl
      isFinal := rfl
      isAbstract := rfl
      body := rfl
      returnExpr := rfl
      isOverride := rfl }

/-- Exactly the acceptable parts make a method. Others are refused, with an absent
    part if they lack one and else with a broken rule. A method has the parts it
    was made of. -/
theorem method_from_parts (p : Parts) :
    ((∃ m, p.build.outcome = .ok m) ↔ p.Acceptable) ∧
    (∀ e, p.build.outcome = .error e →
      (e.kind = .missing ↔ p.Lacks) ∧ (¬ p.Lacks → e.kind = .illegal)) ∧
    ∀ m, p.build.outcome = .ok m → m.MadeOf p := by
  refine ⟨⟨?_, exists_build_of_acceptable⟩, fun e h => (missesIff_build p).kind_iff h,
    fun m h => madeOf_of_build h⟩
  rintro ⟨m, h⟩
  exact acceptable_of_build h

/-- A method that declares an exception twice. Of the second it is said that it extends
    what is no exception. -/
def Parts.close : Parts :=
  { scope := some .publicScope
    returnType := some .void
    name := "close"
    annotations := [.overrideMarker, .deprecatedMarker, .deprecatedMarker]
    throwsTypes :=
      [.reference (.topLevel "java.io" "IOException") false,
        .reference ⟨"java.io", [], "IOException", [], some (.javaLang "Object")⟩ false]
    arguments := []
    isStatic := false
    isFinal := false
    isAbstract := false
    body := []
    returnExpr := none
    isOverride := true }

/-- The same method with a value. -/
def Parts.returning (type : JavaType) (value : Expr) : Parts :=
  { Parts.close with returnType := some type, returnExpr := some value }

/-- A variable for a number of pages, declared or used. -/
def pages (isDeclaration : Bool) : VariableExpr :=
  ⟨⟨⟨"pages"⟩, .primitive .int false⟩, isDeclaration, .localScope⟩

/-- The method is built, and so is a method that returns a literal, a text, the value of
    a variable or that of a call. It is refused for an absent scope, for the exceptions
    in the other order, and for the value of a declaration or of an assignment, which
    have none. -/
theorem method_from_close :
    (∃ m, Parts.close.build.outcome = .ok m ∧ m.MadeOf Parts.close) ∧ Parts.close.Acceptable ∧
    (∃ e, { Parts.close with scope := none }.build.outcome = .error e ∧
      { Parts.close with scope := none }.Lacks ∧ e.kind = .missing) ∧
    (∃ e, { Parts.close with throwsTypes := Parts.close.throwsTypes.reverse }.build.outcome =
        .error e ∧
      ¬ { Parts.close with throwsTypes := Parts.close.throwsTypes.reverse }.Lacks ∧
      e.kind = .illegal) ∧
    (∀ x ∈ [(.primitive .int false, Expr.literal (.primitive .int false) "7"),
        (.string, .string "seven"), (.primitive .int false, .var (pages false)),
        (.primitive .int true, .call none none ⟨"count"⟩ (.primitive .int true) [] [])],
      x.2.HasType x.1 ∧ ∃ m, (Parts.returning x.1 x.2).build.outcome = .ok m ∧
        m.MadeOf (Parts.returning x.1 x.2)) ∧
    ∀ e ∈ [Expr.var (pages true), .assignment (pages false) (.var (pages false))],
      e.HasType .void ∧ ¬ (Parts.returning (.primitive .int false) e).Acceptable ∧
        ∃ f, (Parts.returning (.primitive .int false) e).build.outcome = .error f ∧
          f.kind = .illegal := by
  have hrefused : ∀ p : Parts, (∃ e, p.build.outcome = .error e) → ¬ p.Acceptable := by
    rintro p ⟨e, he⟩ hp
    rcases (method_from_parts p).1.mpr hp with ⟨m, hm⟩
    rw [he] at hm
    cases hm
  refine ⟨⟨_, rfl, (method_from_parts _).2.2 _ rfl⟩, (method_from_parts _).1.mp ⟨_, rfl⟩,
    ⟨_, rfl, ((method_from_parts _).2.1 _ rfl).1.mp rfl, rfl⟩, ⟨_, rfl, ?_, rfl⟩, ?_, ?_⟩
  · -- Turned round, the exceptions start with the one that is refused.
    intro h
    have hkind := ((method_from_parts _).2.1 _ rfl).1.mpr h
    cases hkind
  · simp only [List.forall_mem_cons, List.not_mem_nil, false_imp_iff, implies_true, and_true]
    refine ⟨?_, ?_, ?_, ?_⟩
    · exact ⟨.literal _ _, _, rfl, (method_from_parts _).2.2 _ rfl⟩
    · exact ⟨.string _, _, rfl, (method_from_parts _).2.2 _ rfl⟩
    · exact ⟨.used rfl, _, rfl, (method_from_parts _).2.2 _ rfl⟩
    · exact ⟨.call _ _ _ _ _ _, _, rfl, (method_from_parts _).2.2 _ rfl⟩
  · simp only [List.forall_mem_cons, List.not_mem_nil, false_imp_iff, implies_true, and_true]
    refine ⟨?_, ?_⟩
    · exact ⟨.declared rfl, hrefused _ ⟨_, rfl⟩, _, rfl, rfl⟩
    · exact ⟨.assignment _ _, hrefused _ ⟨_, rfl⟩, _, rfl, rfl⟩

end Method

/-! ### Classes -/

namespace ClassDecl

namespace Parts

/-- The parts of a class obey the rules. -/
structure Acceptable (p : Parts) : Prop where
  name : (⟨p.name⟩ : Identifier).WellFormed
  scope : p.scope.isSome = true
  notLocal : p.scope ≠ some .localScope
  outer : p.isNested = true ∨
    (∃ package, p.package = some package ∧ package ≠ "") ∧ p.isStatic = false ∧
      p.scope ≠ some .privateScope
  extensible : ¬ (p.isAbstract = true ∧ p.isFinal = true)
  extendsType : ∀ t ∈ p.extendsType,
    t.isReference = true ∧ ∀ u ∈ p.implementsTypes, ¬ t.Alike u
  implementsTypes : ∀ t ∈ p.implementsTypes, t.isReference = true
  statements : ∀ s ∈ p.statements,
    (∃ v, s = .expr (.var v) ∧ v.isDeclaration = true ∧ v.scope ≠ .localScope) ∨
      ∃ target value, s = .expr (.assignment target value) ∧ target.scope ≠ .localScope

/-- There is no name, or there is a good one and the scope is absent, or the name
    and the scope are good ones and an outermost class has no package. -/
def Lacks (p : Parts) : Prop :=
  p.name = "" ∨
    (⟨p.name⟩ : Identifier).WellFormed ∧
      (p.scope = none ∨
        p.scope ≠ some .localScope ∧ p.isNested = false ∧
          (p.package = none ∨ p.package = some ""))

theorem namedPackage_eq (p : Parts) :
    p.namedPackage = if p.package = some "" then none else p.package := by
  unfold namedPackage
  cases p.package with
  | none => rfl
  | some package =>
      by_cases hempty : package = ""
      · subst hempty
        rfl
      · rw [if_neg (by simpa using hempty), Option.filter_some, if_pos (by simpa using hempty)]

theorem namedPackage_eq_none_iff {p : Parts} :
    p.namedPackage = none ↔ p.package = none ∨ p.package = some "" := by
  rw [namedPackage_eq]
  by_cases hempty : p.package = some ""
  · simp [hempty]
  · simp [hempty]

theorem isSome_namedPackage_iff {p : Parts} :
    p.namedPackage.isSome = true ↔ ∃ package, p.package = some package ∧ package ≠ "" := by
  rw [Option.isSome_iff_ne_none, Ne, namedPackage_eq_none_iff]
  cases p.package with
  | none => simp
  | some package => simp

theorem implementsSet_eq (p : Parts) :
    p.implementsSet = firstOccurrences p.implementsTypes :=
  eraseDups_eq_firstOccurrences JavaType.beq_iff

/-- It makes no difference whether all implemented types are looked at, or only
    those that are kept. -/
theorem forall_mem_implementsSet {p : Parts} {P : JavaType → Prop}
    (hP : ∀ t u, t.bare = u.bare → P t → P u) :
    (∀ t ∈ p.implementsSet, P t) ↔ ∀ t ∈ p.implementsTypes, P t :=
  forall_mem_eraseDups_iff JavaType.beq_iff (fun t _ u _ => hP t u)

theorem implementsSet_isReference {p : Parts} :
    (∀ t ∈ p.implementsSet, t.isReference = true) ↔
      ∀ t ∈ p.implementsTypes, t.isReference = true := by
  refine forall_mem_implementsSet (fun t u h => ?_)
  rw [← t.isReference_bare, ← u.isReference_bare, h]
  exact id

theorem implementsSet_contains_eq_false {p : Parts} {t : JavaType} :
    p.implementsSet.contains t = false ↔ ∀ u ∈ p.implementsTypes, ¬ t.Alike u := by
  have hsame : ∀ u v : JavaType, u.bare = v.bare → (t == u) = false → (t == v) = false := by
    intro u v huv hu
    rw [← Bool.not_eq_true, JavaType.beq_iff] at hu ⊢
    rw [← huv]
    exact hu
  simp only [← JavaType.beq_iff_alike, Bool.not_eq_true]
  rw [← forall_mem_implementsSet hsame, ← Bool.not_eq_true, List.contains_iff_exists_mem_beq]
  simp

end Parts

/-- A class has the parts it was made of. Annotations and implemented types stand
    where they first stood; a package without a name is none. -/
structure MadeOf (c : ClassDecl) (p : Parts) : Prop where
  scope : p.scope = some c.scope
  name : c.name = p.name
  package : c.package = if p.package = some "" then none else p.package
  isNested : c.isNested = p.isNested
  annotations : c.annotations = firstOccurrences p.annotations
  implementsTypes : c.implementsTypes = firstOccurrences p.implementsTypes
  extendsType : c.extendsType = p.extendsType
  isStatic : c.isStatic = p.isStatic
  isFinal : c.isFinal = p.isFinal
  isAbstract : c.isAbstract = p.isAbstract
  statements : c.statements = p.statements
  methods : c.methods = p.methods
  classes : c.classes = p.classes

variable {p : Parts}

theorem acceptable_of_build {c : ClassDecl} (h : p.build.outcome = .ok c) : p.Acceptable := by
  rcases build_eq_ok.mp h with ⟨identifier, hname, scope, hscope, hlocal, houter, habstract,
    hextends, himplements, hmembers, _⟩
  rcases Identifier.derive_eq_ok_iff.mp hname with ⟨rfl, hname⟩
  exact
    { name := hname
      scope := by rw [hscope]; rfl
      notLocal := by simpa [hscope] using hlocal
      outer := by
        cases hnested : p.isNested with
        | true => exact Or.inl rfl
        | false =>
            rcases houter hnested with ⟨hpackage, hstatic, hprivate⟩
            exact Or.inr ⟨Parts.isSome_namedPackage_iff.mp hpackage, hstatic,
              by simpa [hscope] using hprivate⟩
      extensible := by
        rintro ⟨ha, hf⟩
        rw [habstract ha] at hf
        cases hf
      extendsType := by
        intro t ht
        rcases hextends t ht with ⟨hreference, hcontains⟩
        exact ⟨hreference, Parts.implementsSet_contains_eq_false.mp hcontains⟩
      implementsTypes := Parts.implementsSet_isReference.mp himplements
      statements := fun s hs => checkMember_eq_ok.mp (hmembers s hs) }

theorem exists_build_of_acceptable (h : p.Acceptable) : ∃ c, p.build.outcome = .ok c := by
  rcases Option.isSome_iff_exists.mp h.scope with ⟨scope, hscope⟩
  have hlocal := h.notLocal
  have houter := h.outer
  simp only [hscope, ne_eq, Option.some.injEq] at hlocal houter
  have houter : p.isNested = false →
      p.namedPackage.isSome = true ∧ p.isStatic = false ∧ scope ≠ .privateScope := by
    intro hnested
    rcases houter with hnested' | ⟨hpackage, hstatic, hprivate⟩
    · rw [hnested] at hnested'
      cases hnested'
    · exact ⟨Parts.isSome_namedPackage_iff.mpr hpackage, hstatic, hprivate⟩
  have habstract : p.isAbstract = true → p.isFinal = false := by
    intro ha
    rw [← Bool.not_eq_true]
    exact fun hf => h.extensible ⟨ha, hf⟩
  have hextends : ∀ t ∈ p.extendsType,
      t.isReference = true ∧ p.implementsSet.contains t = false := by
    intro t ht
    rcases h.extendsType t ht with ⟨hreference, hnone⟩
    exact ⟨hreference, Parts.implementsSet_contains_eq_false.mpr hnone⟩
  have hname : (Identifier.derive .classDecl p.name).outcome = .ok ⟨p.name⟩ :=
    Identifier.derive_eq_ok_iff.mpr ⟨rfl, h.name⟩
  exact ⟨_, build_eq_ok.mpr ⟨_, hname, scope, hscope, hlocal, houter, habstract, hextends,
    Parts.implementsSet_isReference.mpr h.implementsTypes,
    fun s hs => checkMember_eq_ok.mpr (h.statements s hs), rfl⟩⟩

theorem missesIff_checkOuter (p : Parts) (scope : Scope) :
    (p.checkOuter scope).MissesIff (p.namedPackage = none) := by
  refine (missesIff_required id).bind (fun package hpackage => ?_)
  have hnamed : p.namedPackage ≠ none := by
    rw [outcome_required_eq_ok.mp hpackage]
    exact Option.some_ne_none package
  refine NeverMissing.missesIff ?_ hnamed
  exact (neverMissing_rejectIf _ _ _).bind (fun _ => neverMissing_rejectIf _ _ _)

/-- The checks that nested and outermost classes have in common. -/
theorem neverMissing_rules (p : Parts) (c : ClassDecl) :
    NeverMissing (do
      rejectIf (p.isAbstract && p.isFinal) .classDecl .abstractFinal
      p.checkExtends
      rejectIf (p.implementsSet.any (fun t => !t.isReference)) .classDecl .implementsNotReference
      Parts.checkMembers p.statements
      pure c) := by
  refine NeverMissing.bind (neverMissing_rejectIf _ _ _) (fun _ => ?_)
  refine NeverMissing.bind (neverMissing_checkExtends _) (fun _ => ?_)
  refine NeverMissing.bind (neverMissing_rejectIf _ _ _) (fun _ => ?_)
  refine NeverMissing.bind (neverMissing_checkMembers _) (fun _ => ?_)
  exact neverMissing_pure _

/-- What a class is refused for is an absent part exactly if the parts lack
    one. -/
theorem missesIff_build (p : Parts) : p.build.MissesIff p.Lacks := by
  refine Identifier.missesIff_derive_bind (fun _ => ?_)
  refine (missesIff_required Or.inl).bind (fun scope hscope => ?_)
  -- The scope is there, so what may be absent is the package.
  simp only [outcome_required_eq_ok.mp hscope, reduceCtorEq, false_or, ne_eq, Option.some.injEq,
    ← Parts.namedPackage_eq_none_iff]
  refine (missesIff_rejectIf (fun hlocal h => h.1 (beq_iff_eq.mp hlocal))).bind
    (fun _ hlocal => ?_)
  cases hnested : p.isNested with
  | true => exact (neverMissing_rules p _).missesIff (by simp)
  | false =>
      rw [outcome_rejectIf_eq_ok, beq_eq_false_iff_ne] at hlocal
      simp only [hlocal, not_false_eq_true, true_and]
      refine (missesIff_checkOuter p scope).bind (fun _ houter => ?_)
      refine (neverMissing_rules p _).missesIff ?_
      rw [← Ne, ← Option.isSome_iff_ne_none]
      exact (checkOuter_eq_ok.mp houter).1

theorem madeOf_of_build {c : ClassDecl} (h : p.build.outcome = .ok c) : c.MadeOf p := by
  rcases build_eq_ok.mp h with ⟨identifier, hname, scope, hscope, _, _, _, _, _, _, rfl⟩
  rcases Identifier.derive_eq_ok_iff.mp hname with ⟨rfl, _⟩
  exact
    { scope := hscope
      name := rfl
      package := p.namedPackage_eq
      isNested := rfl
      annotations := eraseDups_eq_firstOccurrences AnnotationExpr.beq_iff
      implementsTypes := p.implementsSet_eq
      extendsType := rfl
      isStatic := rfl
      isFinal := rfl
      isAbstract := rfl
      statements := rfl
      methods := rfl
      classes := rfl }

/-- Exactly the acceptable parts make a class. Others are refused, with an absent
    part if they lack one and else with a broken rule. A class has the parts it was
    made of. -/
theorem class_from_parts (p : Parts) :
    ((∃ c, p.build.outcome = .ok c) ↔ p.Acceptable) ∧
    (∀ e, p.build.outcome = .error e →
      (e.kind = .missing ↔ p.Lacks) ∧ (¬ p.Lacks → e.kind = .illegal)) ∧
    ∀ c, p.build.outcome = .ok c → c.MadeOf p := by
  refine ⟨⟨?_, exists_build_of_acceptable⟩, fun e h => (missesIff_build p).kind_iff h,
    fun c h => madeOf_of_build h⟩
  rintro ⟨c, h⟩
  exact acceptable_of_build h

/-- A class that implements an interface twice and is in a package. -/
def Parts.page : Parts :=
  { scope := some .publicScope
    name := "Page"
    package := some "org.shelf"
    isNested := false
    annotations := [.deprecatedMarker, .deprecatedMarker]
    implementsTypes :=
      [.reference (.javaLang "Runnable") false,
        .reference ⟨"java.lang", [], "Runnable", [], some (.javaLang "Object")⟩ false]
    extendsType := some (.reference (.javaLang "Thread") false)
    isStatic := false
    isFinal := true
    isAbstract := false
    statements := [.expr (.var ⟨⟨⟨"number"⟩, .primitive .int false⟩, true, .privateScope⟩)]
    methods := []
    classes := [] }

theorem class_from_page :
    (∃ c, Parts.page.build.outcome = .ok c ∧ c.MadeOf Parts.page) ∧ Parts.page.Acceptable ∧
    (∃ e, { Parts.page with package := some "" }.build.outcome = .error e ∧
      { Parts.page with package := some "" }.Lacks ∧ e.kind = .missing) ∧
    ∃ e, { Parts.page with package := none, scope := some .localScope }.build.outcome =
        .error e ∧
      ¬ { Parts.page with package := none, scope := some .localScope }.Lacks ∧
      e.kind = .illegal := by
  refine ⟨⟨_, rfl, (class_from_parts _).2.2 _ rfl⟩, (class_from_parts _).1.mp ⟨_, rfl⟩,
    ⟨_, rfl, ((class_from_parts _).2.1 _ rfl).1.mp rfl, rfl⟩, ⟨_, rfl, ?_, rfl⟩⟩
  -- The scope is looked at before the package.
  intro h
  have hkind := ((class_from_parts _).2.1 _ rfl).1.mpr h
  cases hkind

end ClassDecl

end JavaSource
