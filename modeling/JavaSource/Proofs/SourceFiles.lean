import JavaSource.Skeleton
import JavaSource.Proofs.Dispatch
import JavaSource.Proofs.ImportRuns

/-!
# Source Files

Two things can go wrong on the way to a source file, and they are not on a par.
The imports are the library's own business; the body is that of a renderer,
which comes from outside, keeps a state that the library knows nothing about,
and may fail as well. What is to be known about the renderer is not what it
does but what is done with it: that it is not asked at all if the imports cannot
be collected, and once otherwise.

The state of a renderer can be of any type, and the statements of this module
hold for all of them. In particular they hold for a renderer that keeps a list
of the classes it is asked for (`Renderer.tracked`), and that list tells how
often it was asked.

A third error is written down in the program, that a class lacks a package.
A class that was built never has it: an outermost class has a package, and any
other class is refused before the package is looked at.

## Main definitions

* `Renderer.tracked`: A renderer that keeps a list of what it is asked for.
* `Imports.Serves`: The names are those that a class needs imported.

## Theorems

* `ClassDecl.Built.exists_package`: A built class that no other encloses has a
  package.
* `Imports.Serves.write_eq`: The names that a class needs determine the text of
  the imports.
* `CompilationUnit.imports_cases`: The imports of a built class are collected,
  unless there is sample code in it.
* `CompilationUnit.render_of_failed`, `CompilationUnit.value_render_of_collected`:
  What is done with the renderer in either case.
* `CompilationUnit.file_of_built_class`: Which built classes have a source file,
  and what it is.
-/

namespace JavaSource

/-- A renderer that also keeps a list of the classes it is asked for. -/
def Renderer.tracked {σ : Type} (renderer : Renderer σ) : Renderer (σ × List ClassDecl) :=
  fun c (s, asked) => do
    let (outcome, s) ← renderer c s
    pure (outcome, s, asked ++ [c])

/-- The names are, in ascending order, those of the external classes mentioned in
    a class, as seen from a package. -/
structure Imports.Serves (j : Imports) (c : ClassDecl) (package : String)
    (implicitPackages : List String) : Prop where
  statics_ascending : j.statics.Pairwise (· < ·)
  plains_ascending : j.plains.Pairwise (· < ·)
  mem_statics : ∀ a, a ∈ j.statics ↔
    ∃ r, c.Mentions r ∧ (empty package implicitPackages).External r ∧ r.enclosing ≠ [] ∧
      a = r.fullName
  mem_plains : ∀ a, a ∈ j.plains ↔
    ∃ r, c.Mentions r ∧ (empty package implicitPackages).External r ∧ r.enclosing = [] ∧
      a = r.fullName

/-- Meeting all nodes of a class leaves the names that the class needs. -/
theorem Imports.serves_meetAll (c : ClassDecl) (package : String)
    (implicitPackages : List String) :
    ((empty package implicitPackages).meetAll (Outline.ofClass c).preorder).Serves c package
      implicitPackages := by
  have hmentions : ∀ r, .reference r ∈ (Outline.ofClass c).preorder ↔ c.Mentions r :=
    fun r => (Node.classDecl c).reference_mem_preorder
  -- There are no names to begin with, so those there are at the start are ascending.
  have hascending : ∀ nested, (((empty package implicitPackages).meetAll
      (Outline.ofClass c).preorder).names nested).Pairwise (· < ·) := by
    intro nested
    refine pairwise_names_meetAll ?_
    cases nested <;> exact .nil
  refine ⟨hascending true, hascending false, fun a => ?_, fun a => ?_⟩
  · rw [mem_statics_meetAll]
    simp only [empty, List.not_mem_nil, false_or, hmentions]
  · rw [mem_plains_meetAll]
    simp only [empty, List.not_mem_nil, false_or, hmentions]

/-- The names that a class needs determine the text of the imports. -/
theorem Imports.Serves.write_eq {i j : Imports} {c : ClassDecl} {package : String}
    {implicitPackages : List String} (hi : i.Serves c package implicitPackages)
    (hj : j.Serves c package implicitPackages) : i.write = j.write := by
  have hstatics : i.statics = j.statics :=
    List.Pairwise.eq_of_mem_iff hi.statics_ascending hj.statics_ascending
      (fun a => (hi.mem_statics a).trans (hj.mem_statics a).symm)
  have hplains : i.plains = j.plains :=
    List.Pairwise.eq_of_mem_iff hi.plains_ascending hj.plains_ascending
      (fun a => (hi.mem_plains a).trans (hj.mem_plains a).symm)
  rw [write, write, hstatics, hplains]

theorem ClassDecl.Built.exists_package {c : ClassDecl} (hc : c.Built) (h : c.isNested = false) :
    ∃ package, c.package = some package := by
  cases hc.wellFormed with
  | intro hproper hclasses => exact Option.isSome_iff_exists.mp (hproper.outer h).1

namespace CompilationUnit

variable {u : CompilationUnit} {packages : List String} {σ : Type}

/-- A class that was built is refused only if another encloses it: the error about
    its package cannot arise. -/
theorem value_ofClass {c : ClassDecl} (hc : c.Built) :
    c.isNested = true ∧ (ofClass c).value = .error (.notTopLevel c.name) ∨
      c.isNested = false ∧
        ∃ package, c.package = some package ∧ (ofClass c).value = .ok ⟨package, c⟩ := by
  unfold ofClass
  cases hnested : c.isNested with
  | true => exact Or.inl ⟨rfl, rfl⟩
  | false =>
      rcases hc.exists_package hnested with ⟨package, hpackage⟩
      refine Or.inr ⟨rfl, package, hpackage, ?_⟩
      rw [hpackage]
      rfl

/-- The imports of a built class are collected, unless there is sample code in
    it. -/
theorem imports_cases (hc : u.classDecl.Built) (packages : List String) :
    (¬ u.classDecl.HasSample ∧ ∃ j, (u.imports packages).value = (.ok (), j) ∧
      j.Serves u.classDecl u.package packages) ∨
    u.classDecl.HasSample ∧
      ∃ j, (u.imports packages).value = (.error (.misuse .tryCatch .sampleCode), j) := by
  rw [imports_eq_visit]
  rcases Imports.value_visit_cases (.classDecl hc) (.empty u.package packages) with
    ⟨hnone, hvalue⟩ | ⟨before, _, _, hsample, _, _, _, hvalue⟩
  · exact Or.inl ⟨hnone, _, hvalue, Imports.serves_meetAll u.classDecl u.package packages⟩
  · exact Or.inr ⟨hsample, _, hvalue⟩

/-- If the imports cannot be collected, the renderer is not asked: neither its
    state nor what it would report is in the result. -/
theorem render_of_failed {e : NodeError} {j : Imports}
    (h : (u.imports packages).value = (.error e, j)) (renderer : Renderer σ) (s : σ) :
    u.render packages renderer s = ⟨(.error (.node e), s), (u.imports packages).events⟩ := by
  refine Logged.ext ?_ ?_
  · rw [render, Logged.value_bind, h]
    rfl
  · rw [render, Logged.events_bind, h]
    exact List.append_nil _

/-- If the imports are collected, the renderer has the last word: its state is the
    state in the end and its error is the error. -/
theorem value_render_of_collected {j : Imports} (h : (u.imports packages).value = (.ok (), j))
    (renderer : Renderer σ) (s : σ) :
    (u.render packages renderer s).value =
      ((renderer u.classDecl s).value.1.map (u.assemble j),
        (renderer u.classDecl s).value.2) := by
  rw [render, Logged.value_bind, h]
  simp only [Logged.value_bind]
  rcases (renderer u.classDecl s).value with ⟨_ | _, t⟩
  · rfl
  · rfl

theorem value_render_tracked {j : Imports} (h : (u.imports packages).value = (.ok (), j))
    (renderer : Renderer σ) (s : σ) (asked : List ClassDecl) :
    (u.render packages renderer.tracked (s, asked)).value.2 =
      ((renderer u.classDecl s).value.2, asked ++ [u.classDecl]) := by
  rw [value_render_of_collected h]
  rfl

theorem assemble_eq (u : CompilationUnit) (j : Imports) (body : String) :
    let front := "package " ++ u.package ++ ";\n\n" ++ j.write ++ body
    u.assemble j body = if front.toList.getLast? = some '\n' then front else front ++ "\n" := by
  intro front
  have hfront : u.assemble j body =
      if front.toList.getLast? == some '\n' then front else front ++ "\n" := rfl
  simp only [hfront, beq_iff_eq]

/-- A built class has a source file unless another class encloses it, and no other
    error arises there. Writing the file fails with the error of the import pass,
    and leaves the state of the renderer as it was, exactly if there is sample
    code in the class; the renderer is not asked then. Otherwise it is asked once,
    for the class. An error of the renderer is passed on as it is. A body is put
    behind the line of the package and the imports of the names that the class
    needs, and a newline is added if there is none at the end. -/
theorem file_of_built_class {c : ClassDecl} (hc : c.Built) (packages : List String) :
    (∀ e, (ofClass c).value = .error e ↔ c.isNested = true ∧ e = .notTopLevel c.name) ∧
    (c.isNested = false → ∃ u, (ofClass c).value = .ok u ∧ u.classDecl = c ∧
      c.package = some u.package ∧
      (∀ (σ : Type) (renderer : Renderer σ) (s : σ),
        (∃ e, (u.imports packages).value.1 = .error e ∧
          (u.render packages renderer s).value = (.error (.node e), s)) ↔ c.HasSample) ∧
      (c.HasSample → ∀ (σ : Type) (renderer : Renderer σ) (s : σ) (asked : List ClassDecl),
        (u.render packages renderer.tracked (s, asked)).value.2 = (s, asked)) ∧
      (¬ c.HasSample → ∃ j : Imports, j.Serves c u.package packages ∧
        ∀ (σ : Type) (renderer : Renderer σ) (s : σ),
          (∀ asked, (u.render packages renderer.tracked (s, asked)).value.2 =
            ((renderer c s).value.2, asked ++ [c])) ∧
          (∀ e t, (renderer c s).value = (.error e, t) →
            (u.render packages renderer s).value = (.error e, t)) ∧
          ∀ body t, (renderer c s).value = (.ok body, t) →
            let front := "package " ++ u.package ++ ";\n\n" ++ j.write ++ body
            (u.render packages renderer s).value =
              (.ok (if front.toList.getLast? = some '\n' then front else front ++ "\n"), t))) := by
  rcases value_ofClass hc with ⟨hnested, hvalue⟩ | ⟨hnested, package, hpackage, hvalue⟩
  · rw [hvalue, hnested]
    refine ⟨fun e => ?_, fun h => absurd h (by decide)⟩
    rw [Except.error.injEq, eq_comm]
    exact ⟨fun he => ⟨rfl, he⟩, And.right⟩
  · rw [hvalue, hnested]
    refine ⟨fun e => ⟨fun h => absurd h (by simp), fun h => absurd h.1 (by decide)⟩, fun _ => ?_⟩
    refine ⟨⟨package, c⟩, rfl, rfl, hpackage, ?_⟩
    have hcases := imports_cases (u := ⟨package, c⟩) hc packages
    rcases hcases with ⟨hnone, j, himports, hserves⟩ | ⟨hsample, j, himports⟩
    · refine ⟨fun σ renderer s => ⟨?_, fun h => absurd h hnone⟩, fun h => absurd h hnone,
        fun _ => ⟨j, hserves, fun σ renderer s => ⟨?_, ?_, ?_⟩⟩⟩
      · rintro ⟨e, he, _⟩
        rw [himports] at he
        exact absurd he (by simp)
      · intro asked
        exact value_render_tracked himports renderer s asked
      · intro e t hrenderer
        rw [value_render_of_collected himports, hrenderer]
        rfl
      · intro body t hrenderer front
        rw [value_render_of_collected himports, hrenderer]
        exact congrArg (fun text => (Except.ok text, t)) (assemble_eq ⟨package, c⟩ j body)
    · refine ⟨fun σ renderer s => ⟨fun _ => hsample, fun _ => ?_⟩, fun _ => ?_,
        fun h => absurd hsample h⟩
      · refine ⟨_, congrArg Prod.fst himports, ?_⟩
        rw [render_of_failed himports]
      · intro σ renderer s asked
        rw [render_of_failed himports]

/-- A class with sample code in a nested class, the same class without, and the
    nested class alone, for a renderer that always gives the same body and keeps
    the names of the classes it is asked for. The file of the second has one line
    for a nested class and four for others. -/
theorem file_of_shelf :
    let renderer := (⟨none, some "class Shelf", none, fun text => .ok text⟩ : Skeleton).renderer
    ∃ c d r, (ClassDraft.shelf true).build.outcome = .ok c ∧
      (ClassDraft.shelf false).build.outcome = .ok d ∧
      (ClassDraft.reader false).build.outcome = .ok r ∧
      (ofClass r).value = .error (.notTopLevel "Reader") ∧
      (∃ u e, (ofClass c).value = .ok u ∧
        (u.render ["java.lang"] renderer ["Other"]).value = (.error (.node e), ["Other"])) ∧
      ∃ v, ∃ j : Imports, (ofClass d).value = .ok v ∧ j.Serves d "org.shelf" ["java.lang"] ∧
        j.write = "import static java.util.Map.Entry;\n\n" ++
          "import java.io.IOException;\nimport java.util.List;\n" ++
          "import org.book.Book;\nimport org.book.Books;\n\n" ∧
        (v.render ["java.lang"] renderer ["Other"]).value =
          (.ok ("package " ++ "org.shelf" ++ ";\n\n" ++ j.write ++ "class Shelf" ++ "\n"),
            ["Other", "Shelf"]) := by
  intro renderer
  have hdrafts : ∃ c d r, (ClassDraft.shelf true).build.outcome = .ok c ∧
      (ClassDraft.shelf false).build.outcome = .ok d ∧
      (ClassDraft.reader false).build.outcome = .ok r ∧ c.isNested = false ∧
      (Node.classDecl c).HasSample ∧ d.isNested = false ∧ d.package = some "org.shelf" ∧
      d.name = "Shelf" ∧ ¬ (Node.classDecl d).HasSample ∧ r.isNested = true ∧
      r.name = "Reader" ∧
      ((Imports.empty "org.shelf" ["java.lang"]).meetAll (Outline.ofClass d).preorder).write =
        "import static java.util.Map.Entry;\n\n" ++
          "import java.io.IOException;\nimport java.util.List;\n" ++
          "import org.book.Book;\nimport org.book.Books;\n\n" :=
    ⟨_, _, _, rfl, rfl, rfl, rfl, by decide, rfl, rfl, rfl, by decide, rfl, rfl,
      by decide +kernel⟩
  rcases hdrafts with ⟨c, d, r, hc, hd, hr, houter, hsample, houter', hpackage, hname, hnone,
    hnested, hreader, hlines⟩
  have hfile := file_of_built_class (ClassDraft.built_of_build _ hc) ["java.lang"]
  have hfile' := file_of_built_class (ClassDraft.built_of_build _ hd) ["java.lang"]
  have hfile'' := file_of_built_class (ClassDraft.built_of_build _ hr) ["java.lang"]
  refine ⟨c, d, r, hc, hd, hr, (hfile''.1 _).mpr ⟨hnested, by rw [hreader]⟩, ?_, ?_⟩
  · rcases hfile.2 houter with ⟨u, hu, _, _, hfails, _⟩
    rcases (hfails _ renderer ["Other"]).mpr hsample with ⟨e, _, he⟩
    exact ⟨u, e, hu, he⟩
  · rcases hfile'.2 houter' with ⟨v, hv, _, hpackage', _, _, hwrites⟩
    rcases hwrites hnone with ⟨j, hserves, hrendered⟩
    have hbody : (renderer d ["Other"]).value = (.ok "class Shelf", ["Other", "Shelf"]) := by
      rw [← hname]
      rfl
    rw [hpackage, Option.some.injEq] at hpackage'
    have hlast : "class Shelf".toList.getLast? = some 'f' := by decide
    have hserves' : j.Serves d "org.shelf" ["java.lang"] := hpackage' ▸ hserves
    -- The names are pinned down by the class, and so is their text.
    have hwrite := hserves'.write_eq (Imports.serves_meetAll d "org.shelf" ["java.lang"])
    refine ⟨v, j, hv, hserves', hwrite.trans hlines, ?_⟩
    rw [(hrendered _ renderer ["Other"]).2.2 _ _ hbody, ← hpackage', String.toList_append,
      List.getLast?_append, hlast]
    rfl

end CompilationUnit

end JavaSource
