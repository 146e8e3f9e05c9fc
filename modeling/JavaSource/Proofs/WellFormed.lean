import JavaSource.Proofs.Built

/-!
# Well-Formed Nodes

The rules of the language, said of a finished tree and of everything in it.
The predicates of this module do not mention builders: they say what a reader
of a tree may rely on, at every depth, without knowing how it was made.

`Expr.WellFormed` and `Stmt.WellFormed` follow the constructors of the tree,
and each clause asks for the rules of the node itself and for the
well-formedness of all its parts. A class is split in two, since the rules for
a class are many and its nested classes come in only once: `ClassDecl.Proper`
is about the class, its methods and its statements, and `ClassDecl.WellFormed`
adds the classes nested in it.

Every built node is well-formed. Most rules are checked by the builder of the
node they are about. Two are not. A class body may assign only to a variable
that it declares, but the builder of a class looks at the scope of the
variable alone; that the variable is declared follows because a use has local
scope, which is a rule of another builder. And the types have no rule that
anyone would have to check: a type with a class is of the kind of classes by
its shape.

## Main definitions

* `Identifier.WellFormed`, `JavaType.WellFormed`, `AnnotationExpr.WellFormed`,
  `Variable.WellFormed`, `VariableExpr.WellFormed`, `Expr.WellFormed`,
  `Stmt.WellFormed`, `Method.WellFormed`, `ClassDecl.WellFormed`: The rules
  for each sort of node and all its parts.
* `Expr.HasType`: Which type an expression has.
* `Stmt.DeclaresField`: The statements that may stand in a class body.
* `Node.WellFormed`: The rules for a node of any sort.

## Theorems

* `Expr.hasType_iff`: Every expression has exactly one type.
* `Expr.Built.wellFormed`, `Stmt.Built.wellFormed`, `Method.Built.wellFormed`,
  `ClassDecl.Built.wellFormed`, `Node.Built.wellFormed`: Built nodes are
  well-formed.
-/

namespace JavaSource

/-- An identifier is a spelled name that is no word of the language. -/
structure Identifier.WellFormed (i : Identifier) : Prop where
  nonempty : i.name ≠ ""
  isPart : ∀ c ∈ i.name.toList, Identifier.isPart c = true
  isStart : ∀ c ∈ i.name.toList.head?, Identifier.isStart c = true
  notReserved : i.name ∉ Identifier.reservedWords

/-- A type is made of a class exactly if it is of the kind of classes, and
    there are no arrays of no value. -/
structure JavaType.WellFormed (t : JavaType) : Prop where
  reference_iff : t.reference?.isSome = true ↔ t.kind = .object
  notVoidArray : t.kind = .void → t.isArray = false

/-- An annotation is made of a class. -/
structure AnnotationExpr.WellFormed (a : AnnotationExpr) : Prop where
  type : a.type.WellFormed
  isReference : a.type.isReference = true

/-- A variable can hold a value. -/
structure Variable.WellFormed (v : Variable) : Prop where
  identifier : v.identifier.WellFormed
  type : v.type.WellFormed
  notVoid : v.type.kind ≠ .void

/-- A variable that is used, not declared, has local scope. -/
structure VariableExpr.WellFormed (v : VariableExpr) : Prop where
  var : v.var.WellFormed
  localUse : v.isDeclaration = false → v.scope = .localScope

/-- Which type an expression has. A variable has a value where it is used and none where
    it is declared, and an assignment has none. -/
inductive Expr.HasType : Expr → JavaType → Prop where
  | literal (t : JavaType) (text : String) : HasType (.literal t text) t
  | string (text : String) : HasType (.string text) (.reference (.javaLang "String") false)
  | used {v : VariableExpr} (h : v.isDeclaration = false) : HasType (.var v) v.var.type
  | declared {v : VariableExpr} (h : v.isDeclaration = true) : HasType (.var v) .void
  | assignment (target : VariableExpr) (value : Expr) : HasType (.assignment target value) .void
  | call (receiver : Option Expr) (qualifier : Option String) (method : Identifier)
      (returnType : JavaType) (arguments : List Expr) (generics : List Reference) :
      HasType (.call receiver qualifier method returnType arguments generics) returnType

/-- The rules for an expression and all its parts. -/
inductive Expr.WellFormed : Expr → Prop where
  | literal {t : JavaType} {text : String} (ht : t.WellFormed) (hprimitive : t.isPrimitive = true)
      (hvoid : t.isVoid = false) (harray : t.isArray = false) (htext : text ≠ "") :
      WellFormed (.literal t text)
  | string (text : String) : WellFormed (.string text)
  | var {v : VariableExpr} (hv : v.WellFormed) : WellFormed (.var v)
  | assignment {target : VariableExpr} {value : Expr} (ht : target.WellFormed)
      (hv : WellFormed value) : WellFormed (.assignment target value)
  | call {receiver : Option Expr} {qualifier : Option String} {method : Identifier}
      {returnType : JavaType} {arguments : List Expr} {generics : List Reference}
      (hr : ∀ e ∈ receiver, WellFormed e) (hone : receiver = none ∨ qualifier = none)
      (hq : qualifier ≠ some "") (hm : method.WellFormed) (ht : returnType.WellFormed)
      (ha : ∀ e ∈ arguments, WellFormed e) :
      WellFormed (.call receiver qualifier method returnType arguments generics)

/-- The rules for a statement and all its parts. -/
inductive Stmt.WellFormed : Stmt → Prop where
  | expr {e : Expr} (he : e.WellFormed) : WellFormed (.expr e)
  | ifElse {condition : Expr} {body : List Stmt} {elseIfs : List (Expr × List Stmt)}
      {elseBody : List Stmt} (hc : condition.WellFormed) (hboolean : condition.type = .boolean)
      (hb : ∀ s ∈ body, WellFormed s)
      (hcs : ∀ b ∈ elseIfs, b.1.WellFormed ∧ b.1.type = .boolean)
      (hbs : ∀ b ∈ elseIfs, ∀ s ∈ b.2, WellFormed s) (he : ∀ s ∈ elseBody, WellFormed s) :
      WellFormed (.ifElse condition body elseIfs elseBody)
  | forEach {v : VariableExpr} {collection : Expr} {body : List Stmt} (hv : v.WellFormed)
      (hdeclared : v.isDeclaration = true) (hc : collection.WellFormed)
      (hb : ∀ s ∈ body, WellFormed s) : WellFormed (.forEach v collection body)
  | whileLoop {condition : Expr} {body : List Stmt} (hc : condition.WellFormed)
      (hboolean : condition.type = .boolean) (hb : ∀ s ∈ body, WellFormed s) :
      WellFormed (.whileLoop condition body)
  | tryCatch {resource : Option Assignment} {body : List Stmt} {v : Option VariableExpr}
      {catchBody : List Stmt} {isSample : Bool}
      (hr : ∀ a ∈ resource, a.toExpr.WellFormed ∧ a.target.isDeclaration = true)
      (hb : ∀ s ∈ body, WellFormed s)
      (hv : ∀ v' ∈ v,
        v'.WellFormed ∧ v'.isDeclaration = true ∧ v'.var.type.isException = true)
      (hcaught : isSample = false → v.isSome = true) (hcb : ∀ s ∈ catchBody, WellFormed s) :
      WellFormed (.tryCatch resource body v catchBody isSample)

/-- The statement declares a variable that is seen outside one block, with or
    without a value for it. -/
def Stmt.DeclaresField (s : Stmt) : Prop :=
  ∃ v : VariableExpr, (s = .expr (.var v) ∨ ∃ value, s = .expr (.assignment v value)) ∧
    v.isDeclaration = true ∧ v.scope ≠ .localScope

/-- The rules for a method and all its parts. -/
structure Method.WellFormed (m : Method) : Prop where
  scope : m.scope ≠ .localScope
  overridable : m.isAbstract = true →
    m.isFinal = false ∧ m.isStatic = false ∧ m.scope ≠ .privateScope
  returnType : m.returnType.WellFormed
  returns : m.returnType ≠ .void → m.returnExpr.isSome = true
  returnExpr : ∀ e ∈ m.returnExpr, e.WellFormed ∧ (e.type == m.returnType) = true
  identifier : m.identifier.WellFormed
  annotations : ∀ a ∈ m.annotations, a.WellFormed
  throwsTypes : ∀ t ∈ m.throwsTypes, t.WellFormed ∧
    ∃ r, t.reference? = some r ∧ r.isException = true ∧ r.isUnchecked = false
  arguments : ∀ v ∈ m.arguments, v.WellFormed ∧ v.isDeclaration = true
  body : ∀ s ∈ m.body, s.WellFormed

/-- The rules for a class and all its parts, the classes nested in it apart. -/
structure ClassDecl.Proper (c : ClassDecl) : Prop where
  scope : c.scope ≠ .localScope
  identifier : c.identifier.WellFormed
  package : c.package ≠ some ""
  outer : c.isNested = false →
    c.package.isSome = true ∧ c.isStatic = false ∧ c.scope ≠ .privateScope
  extensible : c.isAbstract = true → c.isFinal = false
  annotations : ∀ a ∈ c.annotations, a.WellFormed
  implementsTypes : ∀ t ∈ c.implementsTypes, t.WellFormed ∧ t.isReference = true
  extendsType : ∀ t ∈ c.extendsType, t.WellFormed ∧ t.isReference = true ∧
    c.implementsTypes.contains t = false
  statements : ∀ s ∈ c.statements, s.WellFormed ∧ s.DeclaresField
  methods : ∀ m ∈ c.methods, m.WellFormed

/-- The rules for a class and all its parts, to any depth of nesting. -/
inductive ClassDecl.WellFormed : ClassDecl → Prop where
  | intro {c : ClassDecl} (hproper : c.Proper) (hclasses : ∀ d ∈ c.classes, WellFormed d) :
      WellFormed c

/-- The rules for a node and all its parts. -/
def Node.WellFormed : Node → Prop
  | identifier i => i.WellFormed
  | scope _ => True
  | reference _ => True
  | type t => t.WellFormed
  | annotationExpr a => a.WellFormed
  | expr e => e.WellFormed
  | stmt s => s.WellFormed
  | method m => m.WellFormed
  | classDecl c => c.WellFormed

/-! ### Types of expressions -/

/-- Every expression has exactly one type, and that is the one it says it has. -/
theorem Expr.hasType_iff {e : Expr} {t : JavaType} : e.HasType t ↔ e.type = t := by
  constructor
  · intro h
    cases h with
    | literal => rfl
    | string => rfl
    | used h => simp [Expr.type, VariableExpr.type, h]
    | declared h => simp [Expr.type, VariableExpr.type, h]
    | assignment => rfl
    | call => rfl
  · rintro rfl
    cases e with
    | literal t text => exact .literal t text
    | string text => exact .string text
    | var v =>
        cases hdeclared : v.isDeclaration with
        | true =>
            have hvoid : (Expr.var v).type = .void := by
              simp [Expr.type, VariableExpr.type, hdeclared]
            rw [hvoid]
            exact .declared hdeclared
        | false =>
            have hvalue : (Expr.var v).type = v.var.type := by
              simp [Expr.type, VariableExpr.type, hdeclared]
            rw [hvalue]
            exact .used hdeclared
    | assignment target value => exact .assignment target value
    | call receiver qualifier method returnType arguments generics =>
        exact .call receiver qualifier method returnType arguments generics

/-! ### Built nodes are well-formed -/

theorem Identifier.wellFormed_of_derive {node : NodeKind} {name : String} {i : Identifier}
    (h : (derive node name).outcome = .ok i) : i.WellFormed := by
  rcases derive_eq_ok.mp h with ⟨hempty, hspelled, hreserved, rfl⟩
  cases hchars : name.toList with
  | nil =>
      rw [hchars, isSpelled] at hspelled
      cases hspelled
  | cons c rest =>
      rw [hchars, isSpelled, Bool.and_eq_true, List.all_eq_true] at hspelled
      rcases hspelled with ⟨hstart, hrest⟩
      have hpart : isPart c = true := by
        -- What may start a name may stand anywhere in it.
        simp only [isStart, isPart, Bool.or_eq_true] at hstart ⊢
        rcases hstart with (h | h) | h
        · exact Or.inl (Or.inl (Or.inl h))
        · exact Or.inl (Or.inr h)
        · exact Or.inr h
      refine ⟨hempty, ?_, ?_, hreserved⟩
      · rw [hchars, List.forall_mem_cons]
        exact ⟨hpart, hrest⟩
      · rw [hchars]
        intro c' hc'
        cases hc'
        exact hstart

/-- Types obey their rules by their shape. -/
theorem JavaType.wellFormed (t : JavaType) : t.WellFormed := by
  cases t with
  | void => exact ⟨by decide, fun _ => rfl⟩
  | primitive p isArray => exact ⟨by cases p <;> simp [reference?, kind, Primitive.kind],
      by cases p <;> simp [kind, Primitive.kind]⟩
  | reference r isArray => exact ⟨by simp [reference?, kind], by simp [kind]⟩

theorem AnnotationExpr.Built.wellFormed {a : AnnotationExpr} (h : a.Built) : a.WellFormed := by
  refine ⟨a.type.wellFormed, ?_⟩
  cases h with
  | overrideMarker => rfl
  | deprecatedMarker => rfl
  | suppressWarnings value => rfl
  | ofType ht h =>
      rcases ofType_eq_ok.mp h with ⟨hreference, rfl⟩
      exact hreference

theorem Variable.Built.wellFormed {v : Variable} (h : v.Built) : v.WellFormed := by
  cases h with
  | @make name t _ ht h =>
      rcases make_eq_ok.mp h with ⟨i, hi, hvoid, rfl⟩
      refine ⟨Identifier.wellFormed_of_derive hi, t.wellFormed, ?_⟩
      cases t with
      | void =>
          -- The one type of that kind is the one the builder refuses.
          cases hvoid
      | primitive p isArray => cases p <;> simp [JavaType.kind, Primitive.kind]
      | reference r isArray => simp [JavaType.kind]

theorem VariableExpr.Built.wellFormed {v : VariableExpr} (h : v.Built) : v.WellFormed := by
  cases h with
  | use hv =>
      -- Made without a builder, and local by the way it is made.
      exact ⟨hv.wellFormed, fun _ => rfl⟩
  | declaration scope hv => exact ⟨hv.wellFormed, nofun⟩
  | ofParts hv h =>
      rcases build_eq_ok.mp h with ⟨v, hvar, huse, rfl⟩
      exact ⟨(hv v hvar).wellFormed, huse⟩

theorem Expr.Built.wellFormed {e : Expr} (h : e.Built) : e.WellFormed := by
  induction h with
  | literal ht h =>
      rcases makeLiteral_eq_ok.mp h with ⟨hprimitive, hvoid, harray, htext, rfl⟩
      exact .literal (JavaType.wellFormed _) hprimitive hvoid harray htext
  | string text => exact .string text
  | var hv => exact .var hv.wellFormed
  | assignment ht _ ihv => exact .assignment ht.wellFormed ihv
  | ofAssignmentParts ht _ h ihv =>
      rcases Assignment.build_eq_ok.mp h with ⟨target, htarget, value, hvalue, rfl⟩
      exact .assignment (ht target htarget).wellFormed (ihv value hvalue)
  | ofCallParts _ ht _ h ihr iha =>
      rcases buildCall_eq_ok.mp h with ⟨method, hm, hone, hq, rfl⟩
      exact .call ihr hone hq (Identifier.wellFormed_of_derive hm) (JavaType.wellFormed _) iha

theorem Stmt.Built.wellFormed {s : Stmt} (h : s.Built) : s.WellFormed := by
  induction h with
  | expr he => exact .expr he.wellFormed
  | ofIfParts hc _ hcs _ _ h ihb ihbs ihe =>
      rcases IfParts.build_eq_ok.mp h with ⟨condition, hcondition, hboolean, hbooleans, rfl⟩
      exact .ifElse (hc condition hcondition).wellFormed hboolean ihb
        (fun b hm => ⟨(hcs b hm).wellFormed, hbooleans b hm⟩) ihbs ihe
  | ofForParts hv hc _ h ihb =>
      rcases ForParts.build_eq_ok.mp h with ⟨v, hvar, collection, hcollection, hdeclared, rfl⟩
      exact .forEach (hv v hvar).wellFormed hdeclared (hc collection hcollection).wellFormed ihb
  | ofWhileParts hc _ h ihb =>
      rcases WhileParts.build_eq_ok.mp h with ⟨condition, hcondition, hboolean, rfl⟩
      exact .whileLoop (hc condition hcondition).wellFormed hboolean ihb
  | ofTryParts hr _ hv _ h ihb ihcb =>
      rcases TryParts.build_eq_ok.mp h with ⟨hresource, ⟨hcatch, hcaught⟩, rfl⟩
      exact .tryCatch (fun a ha => ⟨(hr a ha).wellFormed, hresource a ha⟩) ihb
        (fun v hvar => ⟨(hv v hvar).wellFormed, hcatch v hvar⟩) hcaught ihcb

/-- Dropping repetitions adds nothing, also where sameness is coarser than
    equality. -/
theorem mem_of_mem_eraseDups {α : Type} [BEq α] {a : α} :
    ∀ {xs : List α}, a ∈ xs.eraseDups → a ∈ xs
  | [], h => h
  | x :: xs, h => by
      rw [List.eraseDups_cons, List.mem_cons] at h
      rcases h with rfl | h
      · exact List.mem_cons_self
      · exact List.mem_cons_of_mem x (List.mem_filter.mp (mem_of_mem_eraseDups h)).1
termination_by xs => xs.length
decreasing_by
  exact Nat.lt_succ_of_le (List.length_filter_le _ _)

/-- A method has the annotations it was given, and perhaps the mark of an
    overriding one. -/
theorem Method.mem_annotationSet {p : Parts} {a : AnnotationExpr} (h : a ∈ p.annotationSet) :
    a ∈ p.annotations ∨ a = .overrideMarker := by
  simp only [Parts.annotationSet] at h
  split at h
  · rw [List.mem_append, List.mem_singleton] at h
    rcases h with h | h
    · exact Or.inl (mem_of_mem_eraseDups (List.mem_filter.mp h).1)
    · exact Or.inr h
  · exact Or.inl (mem_of_mem_eraseDups h)

theorem Method.Built.wellFormed {m : Method} (h : m.Built) : m.WellFormed := by
  cases h with
  | @ofParts p m _ ha _ hvs hb he h =>
      rcases build_eq_ok.mp h with ⟨identifier, hi, scope, _, returnType, _, hscope, habstract,
        ⟨hreturns, hreturnExpr⟩, harguments, hthrows, rfl⟩
      have hannotations : ∀ a ∈ p.annotationSet, a.WellFormed := by
        intro a hm
        rcases mem_annotationSet hm with hm | rfl
        · exact (ha a hm).wellFormed
        · -- The mark is a constant: no builder has looked at it.
          exact AnnotationExpr.Built.overrideMarker.wellFormed
      exact
        { scope := hscope
          overridable := habstract
          returnType := returnType.wellFormed
          returns := fun hvalue =>
            Option.isSome_iff_ne_none.mpr (fun hnone => hvalue (hreturns hnone))
          returnExpr := fun e hm => ⟨(he e hm).wellFormed, hreturnExpr e hm⟩
          identifier := Identifier.wellFormed_of_derive hi
          annotations := hannotations
          throwsTypes := fun t hm => ⟨t.wellFormed, hthrows t hm⟩
          arguments := fun v hm => ⟨(hvs v hm).wellFormed, harguments v hm⟩
          body := fun s hm => (hb s hm).wellFormed }

/-- A class body declares what it assigns to. The check is on the scope of the
    variable alone, and it suffices because a use has local scope. -/
theorem Stmt.declaresField_of_checkMember {s : Stmt} (hs : s.WellFormed)
    (h : (ClassDecl.Parts.checkMember s).outcome = .ok ()) : s.DeclaresField := by
  rcases ClassDecl.checkMember_eq_ok.mp h with ⟨v, rfl, hdeclared, hscope⟩ |
    ⟨target, value, rfl, hscope⟩
  · exact ⟨v, Or.inl rfl, hdeclared, hscope⟩
  · cases hs with
    | expr he =>
        cases he with
        | assignment ht hv =>
            refine ⟨target, Or.inr ⟨value, rfl⟩, ?_, hscope⟩
            -- A target that is merely used would have local scope.
            cases hdeclared : target.isDeclaration with
            | true => rfl
            | false => exact absurd (ht.localUse hdeclared) hscope

/-- A package that is kept has a name. -/
theorem ClassDecl.namedPackage_ne_empty (p : Parts) : p.namedPackage ≠ some "" := by
  intro h
  rw [Parts.namedPackage, Option.filter_eq_some_iff] at h
  exact absurd h.2 (by decide)

theorem ClassDecl.Built.wellFormed {c : ClassDecl} (h : c.Built) : c.WellFormed := by
  induction h with
  | @ofParts p c ha _ _ hs hm _ h ihc =>
      rcases build_eq_ok.mp h with ⟨identifier, hi, scope, _, hscope, houter, habstract, hextends,
        himplements, hmembers, rfl⟩
      have hstatements : ∀ s ∈ p.statements, s.WellFormed ∧ s.DeclaresField := by
        intro s hm
        have hwf := (hs s hm).wellFormed
        exact ⟨hwf, Stmt.declaresField_of_checkMember hwf (hmembers s hm)⟩
      refine .intro ?_ ihc
      exact
        { scope := hscope
          identifier := Identifier.wellFormed_of_derive hi
          package := namedPackage_ne_empty p
          outer := houter
          extensible := habstract
          annotations := fun a hm => (ha a (mem_of_mem_eraseDups hm)).wellFormed
          implementsTypes := fun t hm => ⟨t.wellFormed, himplements t hm⟩
          extendsType := fun t hm => ⟨t.wellFormed, hextends t hm⟩
          statements := hstatements
          methods := fun m hmem => (hm m hmem).wellFormed }

theorem Node.Built.wellFormed {n : Node} (h : n.Built) : n.WellFormed := by
  cases h with
  | identifier h => exact Identifier.wellFormed_of_derive h
  | scope s => trivial
  | reference r => trivial
  | type h => exact JavaType.wellFormed _
  | annotationExpr h => exact h.wellFormed
  | expr h => exact h.wellFormed
  | stmt h => exact h.wellFormed
  | method h => exact h.wellFormed
  | classDecl h => exact h.wellFormed

end JavaSource
