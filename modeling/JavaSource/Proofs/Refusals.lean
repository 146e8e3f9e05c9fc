import JavaSource.Proofs.WellFormed

/-!
# Refusals

`Proofs.Outcome` says which parts a builder accepts. This module is about the
others, and about the kind of error they meet with. A refusal is about an absent
part or about a broken rule, and since the first refusal ends the building, the
order of the checks decides between the two.

What can be absent is a name, or a part that is asked for by `required`. When a
builder is refused for an absent part (`Build.MissesIff`) is found step by step,
by a rule for each sort of step and one for sequences. Where a builder is done
with asking for parts it only looks at rules, and from there on no refusal is
about an absent part any more (`Build.NeverMissing`). That is kept by sequences
and loops, so it is shown for each check by itself.

## Main definitions

* `Build.NeverMissing`: All refusals are about broken rules.
* `Build.MissesIff`: The refusals are about an absent part or about a broken rule,
  depending on a condition.

## Theorems

* `Build.outcome_bind_eq_error`: A sequence is refused with the first refusal of
  its steps.
* `Build.NeverMissing.bind`: If no step misses a part, neither does a sequence.
* `Build.MissesIff.bind`: A sequence misses a part if its steps agree on when.
* `Identifier.missesIff_derive_bind`: A builder misses a part if it has no name, or
  a good name and its rest misses one.
* `Identifier.derive_eq_ok_iff`: The identifiers are the well-formed names.
* `Identifier.kind_of_derive_eq_error`: Only the empty name is an absent one.
* `Method.neverMissing_checkThrows`, `ClassDecl.neverMissing_checkMembers` and
  their companions: No check of a rule misses a part.
-/

namespace JavaSource

namespace Build

variable {α β : Type}

theorem outcome_bind_eq_error {x : Build α} {f : α → Build β} {e : NodeError} :
    outcome (x >>= f) = .error e ↔
      outcome x = .error e ∨ ∃ a, outcome x = .ok a ∧ outcome (f a) = .error e := by
  rw [outcome_bind]
  cases outcome x with
  | error e' =>
      constructor
      · intro h
        cases h
        exact Or.inl rfl
      · rintro (h | ⟨a, h, _⟩)
        · cases h
          rfl
        · cases h
  | ok a =>
      constructor
      · intro h
        exact Or.inr ⟨a, rfl, h⟩
      · rintro (h | ⟨a', h, he⟩)
        · cases h
        · cases h
          exact he

theorem outcome_required_eq_error {node : NodeKind} {field : Field} {part : Option α}
    {e : NodeError} :
    outcome (required node field part) = .error e ↔ part = none ∧ e = .missing node field := by
  cases part with
  | none =>
      simp only [required, outcome_reject, Except.error.injEq, true_and]
      exact eq_comm
  | some a =>
      have hok : outcome (required node field (some a)) = .ok a := outcome_required_eq_ok.mpr rfl
      simp only [hok, reduceCtorEq, false_and]

/-- Whatever the computation is refused for, it is a broken rule. -/
def NeverMissing (b : Build α) : Prop :=
  ∀ e, b.outcome = .error e → e.kind = .illegal

theorem neverMissing_pure (a : α) : NeverMissing (pure a) := by
  intro e h
  cases h

theorem neverMissing_rejectFault (node : NodeKind) (fault : Fault) :
    NeverMissing (rejectFault node fault : Build α) := by
  intro e h
  cases h
  rfl

theorem neverMissing_rejectIf (condition : Bool) (node : NodeKind) (fault : Fault) :
    NeverMissing (rejectIf condition node fault) := by
  cases condition with
  | true => exact neverMissing_rejectFault node fault
  | false => exact neverMissing_pure ()

theorem NeverMissing.bind {x : Build α} {f : α → Build β} (hx : x.NeverMissing)
    (hf : ∀ a, (f a).NeverMissing) : (x >>= f).NeverMissing := by
  intro e h
  rcases outcome_bind_eq_error.mp h with h | ⟨a, _, h⟩
  · exact hx e h
  · exact hf a e h

/-- If the computation is refused, it is for an absent part if the condition holds,
    and for a broken rule if not. -/
def MissesIff (b : Build α) (lacks : Prop) : Prop :=
  ∀ e, b.outcome = .error e → lacks ∧ e.kind = .missing ∨ ¬ lacks ∧ e.kind = .illegal

theorem MissesIff.kind_iff {b : Build α} {lacks : Prop} (h : b.MissesIff lacks) {e : NodeError}
    (he : b.outcome = .error e) :
    (e.kind = .missing ↔ lacks) ∧ (¬ lacks → e.kind = .illegal) := by
  rcases h e he with ⟨hlacks, hkind⟩ | ⟨hlacks, hkind⟩
  · exact ⟨⟨fun _ => hlacks, fun _ => hkind⟩, fun hnot => absurd hlacks hnot⟩
  · refine ⟨⟨fun hmissing => ?_, fun h => absurd h hlacks⟩, fun _ => hkind⟩
    rw [hkind] at hmissing
    cases hmissing

theorem NeverMissing.missesIff {b : Build α} {lacks : Prop} (h : b.NeverMissing)
    (hlacks : ¬ lacks) : b.MissesIff lacks := by
  intro e he
  exact Or.inr ⟨hlacks, h e he⟩

theorem MissesIff.bind {x : Build α} {f : α → Build β} {lacks : Prop} (hx : x.MissesIff lacks)
    (hf : ∀ a, x.outcome = .ok a → (f a).MissesIff lacks) : (x >>= f).MissesIff lacks := by
  intro e h
  rcases outcome_bind_eq_error.mp h with h | ⟨a, ha, h⟩
  · exact hx e h
  · exact hf a ha e h

theorem missesIff_required {node : NodeKind} {field : Field} {part : Option α} {lacks : Prop}
    (h : part = none → lacks) : (required node field part).MissesIff lacks := by
  intro e he
  rcases outcome_required_eq_error.mp he with ⟨hnone, rfl⟩
  exact Or.inl ⟨h hnone, rfl⟩

theorem missesIff_rejectIf {condition : Bool} {node : NodeKind} {fault : Fault} {lacks : Prop}
    (h : condition = true → ¬ lacks) : (rejectIf condition node fault).MissesIff lacks := by
  cases condition with
  | true => exact (neverMissing_rejectIf true node fault).missesIff (h rfl)
  | false =>
      intro e he
      cases he

end Build

open Build

namespace Identifier

/-- The identifiers are the well-formed names, for whatever node they are. -/
theorem derive_eq_ok_iff {node : NodeKind} {name : String} {i : Identifier} :
    (derive node name).outcome = .ok i ↔ i = ⟨name⟩ ∧ i.WellFormed := by
  constructor
  · intro h
    exact ⟨(derive_eq_ok.mp h).2.2.2, wellFormed_of_derive h⟩
  · rintro ⟨rfl, hempty, hpart, hstart, hreserved⟩
    refine derive_eq_ok.mpr ⟨hempty, ?_, hreserved, rfl⟩
    -- What the rules say of all characters is checked of the first and of the rest.
    cases hchars : name.toList with
    | nil => exact absurd (String.toList_eq_nil_iff.mp hchars) hempty
    | cons c rest =>
        simp only [hchars, List.head?_cons, Option.mem_some_iff, forall_eq'] at hstart
        simp only [hchars, List.forall_mem_cons] at hpart
        rw [isSpelled, Bool.and_eq_true, List.all_eq_true]
        exact ⟨hstart, hpart.2⟩

/-- A name is absent only if it is empty. Any other name that is refused breaks a
    rule. -/
theorem kind_of_derive_eq_error {node : NodeKind} {name : String} {e : NodeError}
    (h : (derive node name).outcome = .error e) :
    name = "" ∧ e.kind = .missing ∨
      name ≠ "" ∧ ¬ (⟨name⟩ : Identifier).WellFormed ∧ e.kind = .illegal := by
  have hrefused : ¬ (⟨name⟩ : Identifier).WellFormed := by
    intro hname
    rw [derive_eq_ok_iff.mpr ⟨rfl, hname⟩] at h
    cases h
  unfold derive at h
  by_cases hempty : name = ""
  · subst hempty
    cases h
    exact Or.inl ⟨rfl, rfl⟩
  · refine Or.inr ⟨hempty, hrefused, ?_⟩
    rw [if_neg (by simpa using hempty)] at h
    split at h
    · exact neverMissing_rejectFault _ _ e h
    · split at h
      · exact neverMissing_rejectFault _ _ e h
      · exact neverMissing_pure _ e h

/-- The name comes first: it is absent, or it is a good one and the rest
    decides. -/
theorem missesIff_derive_bind {α : Type} {node : NodeKind} {name : String}
    {f : Identifier → Build α} {lacks : Prop}
    (hf : (⟨name⟩ : Identifier).WellFormed → (f ⟨name⟩).MissesIff lacks) :
    (derive node name >>= f).MissesIff
      (name = "" ∨ (⟨name⟩ : Identifier).WellFormed ∧ lacks) := by
  intro e h
  rcases outcome_bind_eq_error.mp h with h | ⟨i, hi, h⟩
  · rcases kind_of_derive_eq_error h with ⟨hempty, hkind⟩ | ⟨hempty, hbad, hkind⟩
    · exact Or.inl ⟨Or.inl hempty, hkind⟩
    · exact Or.inr ⟨fun hlacks => hlacks.elim hempty (fun hgood => hbad hgood.1), hkind⟩
  · rcases derive_eq_ok_iff.mp hi with ⟨rfl, hgood⟩
    rcases hf hgood e h with ⟨hlacks, hkind⟩ | ⟨hlacks, hkind⟩
    · exact Or.inl ⟨Or.inr ⟨hgood, hlacks⟩, hkind⟩
    · exact Or.inr ⟨fun h => h.elim hgood.nonempty (fun h => hlacks h.2), hkind⟩

end Identifier

namespace Method

theorem neverMissing_checkReturn (returnType : JavaType) (returnExpr : Option Expr) :
    (Parts.checkReturn returnType returnExpr).NeverMissing := by
  cases returnExpr with
  | none => exact neverMissing_rejectIf _ _ _
  | some e => exact neverMissing_rejectIf _ _ _

theorem neverMissing_checkArguments (arguments : List VariableExpr) :
    (Parts.checkArguments arguments).NeverMissing := by
  induction arguments with
  | nil => exact neverMissing_pure ()
  | cons v rest ih => exact (neverMissing_rejectIf _ _ _).bind (fun _ => ih)

theorem neverMissing_checkThrows (types : List JavaType) :
    (Parts.checkThrows types).NeverMissing := by
  induction types with
  | nil => exact neverMissing_pure ()
  | cons t rest ih =>
      cases t with
      | reference r isArray =>
          exact (neverMissing_rejectIf _ _ _).bind
            (fun _ => (neverMissing_rejectIf _ _ _).bind (fun _ => ih))
      | void => exact neverMissing_rejectFault _ _
      | primitive p isArray => exact neverMissing_rejectFault _ _

end Method

namespace ClassDecl

theorem neverMissing_checkExtends (p : Parts) : p.checkExtends.NeverMissing := by
  unfold Parts.checkExtends
  cases p.extendsType with
  | none => exact neverMissing_pure ()
  | some t => exact (neverMissing_rejectIf _ _ _).bind (fun _ => neverMissing_rejectIf _ _ _)

theorem neverMissing_checkMember (s : Stmt) : (Parts.checkMember s).NeverMissing := by
  cases s with
  | expr e =>
      cases e with
      | var v => exact (neverMissing_rejectIf _ _ _).bind (fun _ => neverMissing_rejectIf _ _ _)
      | assignment target value => exact neverMissing_rejectIf _ _ _
      | _ => exact neverMissing_rejectFault _ _
  | _ => exact neverMissing_rejectFault _ _

theorem neverMissing_checkMembers (ss : List Stmt) : (Parts.checkMembers ss).NeverMissing := by
  induction ss with
  | nil => exact neverMissing_pure ()
  | cons s rest ih => exact (neverMissing_checkMember s).bind (fun _ => ih)

end ClassDecl

end JavaSource
