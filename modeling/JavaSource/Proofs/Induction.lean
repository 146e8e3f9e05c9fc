import JavaSource.Outline

/-!
# Induction on Trees

References, expressions, statements, classes and outlines hold lists and
optional values of their own kind. The recursors Lean derives for them have a
separate motive for each such list. The principles of this module have one
motive and speak of the members: what has to be shown of a node may be assumed
of every part of it that is of its own sort.

## Theorems

* `eq_list_map`: A recursion over a list of parts is a map.
* `Reference.inductionOn`, `Expr.inductionOn`, `Stmt.inductionOn`,
  `ClassDecl.inductionOn`, `Outline.inductionOn`: Induction on each sort.
-/

namespace JavaSource

/-- A function that goes through a list place by place is a map. The functions on
    trees have such a companion for each list that a tree holds. -/
theorem eq_list_map {α β : Type} {f : α → β} {all : List α → List β} (nil : all [] = [])
    (cons : ∀ x xs, all (x :: xs) = f x :: all xs) (xs : List α) : all xs = xs.map f := by
  induction xs with
  | nil => exact nil
  | cons x xs ih => rw [cons, ih, List.map_cons]

/-- Induction on references, over the generic arguments. -/
@[elab_as_elim]
theorem Reference.inductionOn {motive : Reference → Prop} (r : Reference)
    (step : ∀ r : Reference, (∀ g ∈ r.generics, motive g) → motive r) : motive r := by
  refine @Reference.rec motive (fun rs => ∀ g ∈ rs, motive g) (fun _ => True) ?_ ?_ ?_ ?_ ?_ r
  · intro package enclosing name generics declaredSuper hgenerics _
    exact step _ hgenerics
  · exact fun g hg => absurd hg List.not_mem_nil
  · intro g rs hg hrs
    rw [List.forall_mem_cons]
    exact ⟨hg, hrs⟩
  · trivial
  · exact fun _ _ => trivial

/-- Induction on expressions. -/
@[elab_as_elim]
theorem Expr.inductionOn {motive : Expr → Prop} (e : Expr)
    (literal : ∀ t text, motive (.literal t text)) (string : ∀ text, motive (.string text))
    (var : ∀ v, motive (.var v))
    (assignment : ∀ target value, motive value → motive (.assignment target value))
    (call : ∀ receiver qualifier method returnType arguments generics,
      (∀ e ∈ receiver, motive e) → (∀ e ∈ arguments, motive e) →
        motive (.call receiver qualifier method returnType arguments generics)) : motive e := by
  -- The motives for the receiver and for the arguments of a call say it of all members.
  refine @Expr.rec motive (fun o => ∀ e ∈ o, motive e) (fun es => ∀ e ∈ es, motive e)
    literal string var assignment ?_ ?_ ?_ ?_ ?_ e
  · intro receiver qualifier method returnType arguments generics hreceiver harguments
    exact call receiver qualifier method returnType arguments generics hreceiver harguments
  · exact fun e he => absurd he (by simp)
  · intro e he e' he'
    cases he'
    exact he
  · exact fun e he => absurd he List.not_mem_nil
  · intro e es he hes
    rw [List.forall_mem_cons]
    exact ⟨he, hes⟩

/-- Induction on statements. Only bodies hold statements. -/
@[elab_as_elim]
theorem Stmt.inductionOn {motive : Stmt → Prop} (s : Stmt) (expr : ∀ e, motive (.expr e))
    (ifElse : ∀ condition body elseIfs elseBody, (∀ s ∈ body, motive s) →
      (∀ b ∈ elseIfs, ∀ s ∈ b.2, motive s) → (∀ s ∈ elseBody, motive s) →
        motive (.ifElse condition body elseIfs elseBody))
    (forEach : ∀ v collection body, (∀ s ∈ body, motive s) → motive (.forEach v collection body))
    (whileLoop : ∀ condition body, (∀ s ∈ body, motive s) → motive (.whileLoop condition body))
    (tryCatch : ∀ resource body v catchBody isSample, (∀ s ∈ body, motive s) →
      (∀ s ∈ catchBody, motive s) → motive (.tryCatch resource body v catchBody isSample)) :
    motive s := by
  -- A branch counts by its body alone: its condition holds no statements.
  refine @Stmt.rec motive (fun ss => ∀ s ∈ ss, motive s)
    (fun bs => ∀ b ∈ bs, ∀ s ∈ b.2, motive s) (fun b => ∀ s ∈ b.2, motive s)
    expr ifElse forEach whileLoop ?_ ?_ ?_ ?_ ?_ ?_ s
  · exact tryCatch
  · exact fun s hs => absurd hs List.not_mem_nil
  · intro s ss hs hss
    rw [List.forall_mem_cons]
    exact ⟨hs, hss⟩
  · exact fun b hb => absurd hb List.not_mem_nil
  · intro b bs hb hbs
    rw [List.forall_mem_cons]
    exact ⟨hb, hbs⟩
  · exact fun condition body hbody => hbody

/-- Induction on classes, over the classes nested in them. -/
@[elab_as_elim]
theorem ClassDecl.inductionOn {motive : ClassDecl → Prop} (c : ClassDecl)
    (step : ∀ c : ClassDecl, (∀ d ∈ c.classes, motive d) → motive c) : motive c := by
  refine @ClassDecl.rec motive (fun cs => ∀ d ∈ cs, motive d) ?_ ?_ ?_ c
  · intro scope identifier package isNested annotations implementsTypes extendsType isStatic
      isFinal isAbstract statements methods classes hclasses
    exact step _ hclasses
  · exact fun d hd => absurd hd List.not_mem_nil
  · intro c cs hc hcs
    rw [List.forall_mem_cons]
    exact ⟨hc, hcs⟩

/-- Induction on outlines. -/
@[elab_as_elim]
theorem Outline.inductionOn {motive : Outline → Prop} (o : Outline)
    (step : ∀ label children, (∀ o ∈ children, motive o) → motive (.node label children)) :
    motive o := by
  refine @Outline.rec motive (fun os => ∀ o ∈ os, motive o) step ?_ ?_ o
  · exact fun o ho => absurd ho List.not_mem_nil
  · intro o os ho hos
    rw [List.forall_mem_cons]
    exact ⟨ho, hos⟩

end JavaSource
