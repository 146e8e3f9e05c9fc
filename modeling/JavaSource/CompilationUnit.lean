import JavaSource.Imports

/-!
# Compilation Units

A source file holds one class that no other encloses: the line that names
its package, the imports that the class needs, and the body of the class.
What the body looks like is up to a renderer, which keeps a state of its own
and may fail. Imports are collected first, so a class whose imports cannot
be collected never reaches the renderer.

## Main definitions

* `UnitError`: Why a class has no source file.
* `Renderer`: What writes the body of a class.
* `CompilationUnit`: A class with the package of its file.
* `CompilationUnit.ofClass`: The file of a class.
* `CompilationUnit.render`: The text of a file.
-/

namespace JavaSource

/-- Why a class has no source file. -/
inductive UnitError where
  /-- A node of the class stands in the way. -/
  | node (e : NodeError)
  /-- The class is enclosed by another. -/
  | notTopLevel (className : String)
  /-- The renderer failed. -/
  | render (className message : String)
deriving DecidableEq, Repr

/-- What an error says. -/
def UnitError.message : UnitError → String
  | .node e => e.message
  | .notTopLevel className =>
    s!"class `{className}` is nested and cannot be written as its own file"
  | .render className message => s!"renderer failed on `{className}`: {message}"

/-- What writes the body of a class: from a state of its own it makes a new
    one, and a text or an error. -/
abbrev Renderer (σ : Type) := ClassDecl → σ → Logged (Except UnitError String × σ)

/-- A source file of one class. -/
structure CompilationUnit where
  /-- The package of the file. -/
  package : String
  /-- The class. -/
  classDecl : ClassDecl

namespace CompilationUnit

/-- The source file of a class that no other encloses. -/
def ofClass (c : ClassDecl) : Logged (Except UnitError CompilationUnit) :=
  if c.isNested then
    pure (.error (.notTopLevel c.name))
  else
    match c.package with
    | some package => pure (.ok ⟨package, c⟩)
    | none => do
      let e := NodeError.missing .classDecl .package
      Logged.report e.event
      pure (.error (.node e))

/-- Collect the imports that the class needs. -/
def imports (u : CompilationUnit) (implicitPackages : List String) :
    Logged (Except NodeError Unit × Imports) :=
  ((Imports.visitor.acceptClass u.classDecl).run).run (Imports.empty u.package implicitPackages)

/-- A text that ends in a newline. -/
def ensureNewline (text : String) : String :=
  if text.toList.getLast? == some '\n' then text else text ++ "\n"

/-- The text of a file, from its imports and the body of its class. -/
def assemble (u : CompilationUnit) (i : Imports) (body : String) : String :=
  ensureNewline ("package " ++ u.package ++ ";\n\n" ++ i.write ++ body)

/-- The text of a file, and the state the renderer ends in. -/
def render {σ : Type} (u : CompilationUnit) (implicitPackages : List String)
    (renderer : Renderer σ) (s : σ) : Logged (Except UnitError String × σ) := do
  match ← u.imports implicitPackages with
  | (.error e, _) => pure (.error (.node e), s)
  | (.ok (), i) =>
    match ← renderer u.classDecl s with
    | (.error e, s) => pure (.error e, s)
    | (.ok body, s) => do
      Logged.report
        (.unitRendered u.package u.classDecl.name i.statics.length i.plains.length)
      pure (.ok (u.assemble i body), s)

end CompilationUnit

end JavaSource
