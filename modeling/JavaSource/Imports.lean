import JavaSource.Traversal

/-!
# Imports

The names that a source must import before it can refer to the classes it
mentions. A class is seen without an import if it is in the package of the
source, in a package that every source sees, or in the default package,
from which nothing can be imported. A class that another type encloses is
imported statically.

Names are collected by a traversal. Generic arguments are entered also below
a class that needs no import. Sample code is never compiled and so must not
take part: meeting it ends the traversal with an error, and the names
collected before that stay.

Collected names stand in ascending order, each once, so the text of the
imports depends on nothing but the set of names.

## Main definitions

* `insertName`: Adding a name to ascending names.
* `Imports`: The names collected for one package.
* `Imports.visit`: Collecting the names of an outline.
* `Imports.visitor`: The collection by the methods it overrides.
* `Imports.clear`: Forgetting all names.
* `Imports.Step`, `Imports.apply`: A use of the collected names.
* `Imports.write`: The text of the imports.

## Theorems

* `mem_insertName`: Adding a name adds it and nothing else.
-/

namespace JavaSource

/-- Add a name to names in ascending order. -/
def insertName (name : String) : List String → List String
  | [] => [name]
  | n :: ns =>
    if name < n then name :: n :: ns
    else if name = n then n :: ns
    else n :: insertName name ns

/-- Adding a name adds it and nothing else. -/
theorem mem_insertName {a name : String} {ns : List String} :
    a ∈ insertName name ns ↔ a = name ∨ a ∈ ns := by
  induction ns with
  | nil => simp only [insertName, List.mem_singleton, List.not_mem_nil, or_false]
  | cons n ns ih =>
      simp only [insertName]
      split
      · simp only [List.mem_cons]
      · split
        · -- The name is there already.
          rename_i _ heq
          simp only [List.mem_cons, heq, or_self_left]
        · simp only [List.mem_cons, ih, or_left_comm]

/-- The names collected for the sources of one package. -/
structure Imports where
  /-- The package the sources are in. -/
  package : String
  /-- The packages that every source sees. -/
  implicitPackages : List String
  /-- The collected names of nested classes, ascending. -/
  statics : List String
  /-- The collected names of top-level classes, ascending. -/
  plains : List String
deriving DecidableEq, Repr

namespace Imports

/-- The packages that every source sees unless told otherwise. -/
def defaultImplicitPackages : List String :=
  ["java.lang"]

/-- No names, for a package. -/
def empty (package : String) (implicitPackages : List String) : Imports :=
  ⟨package, implicitPackages, [], []⟩

/-- Whether no name has been collected. -/
def isEmpty (i : Imports) : Bool :=
  i.statics.isEmpty && i.plains.isEmpty

/-- Whether a class must be imported before it can be referred to. -/
def needs (i : Imports) (r : Reference) : Bool :=
  !r.package.isEmpty && r.package != i.package && !i.implicitPackages.contains r.package

/-- Collect the name of a class if it needs an import. -/
def add (i : Imports) (r : Reference) : Imports :=
  if !i.needs r then i
  else if r.isNested then { i with statics := insertName r.fullName i.statics }
  else { i with plains := insertName r.fullName i.plains }

/-- What is reported when the name of a class is collected or not. -/
def addEvent (i : Imports) (r : Reference) : Log.Event :=
  if !i.needs r then .nameDropped r.fullName
  else if r.isNested then .staticImport r.fullName
  else .plainImport r.fullName

/-- What keeps the collection of names from going below a statement. -/
def misuse : Stmt → Option Misuse
  | .tryCatch _ _ catchVariable _ isSample =>
    if isSample then some .sampleCode
    else if catchVariable.isNone then some .catchVariableRequired
    else none
  | _ => none

/-- A step of the collection: it reports, it changes the collected names, and
    it can fail without undoing either. -/
abbrev Collect := ExceptT NodeError (StateT Imports Logged)

/-- Report an event. -/
def report (e : Log.Event) : Collect Unit :=
  liftM (Logged.report e)

/-- What the collection does on entering a node. -/
def enter : Node → Collect Bool
  | .reference r => do
    let i ← get
    report (i.addEvent r)
    set (i.add r)
    pure true
  | .stmt s =>
    match misuse s with
    | some reason => do
      report (.tryCatchRejected reason.message)
      throw (.misuse .tryCatch reason)
    | none => pure true
  | _ => pure true

/-- The methods of the collection, of which it overrides two: a class is
    collected and its generic arguments are walked, and a try statement is
    refused or walked. -/
def visitor : Visitor Collect where
  onReference r walk := do
    let i ← get
    report (i.addEvent r)
    set (i.add r)
    walk
  onTryCatch s walk :=
    match misuse s with
    | some reason => do
      report (.tryCatchRejected reason.message)
      throw (.misuse .tryCatch reason)
    | none => walk

/-- Collect the names of an outline. -/
def visit (i : Imports) (o : Outline) : Logged (Except NodeError Unit × Imports) :=
  ((o.traverse enter).run).run i

/-- Forget all names. -/
def clear (i : Imports) : Logged Imports := do
  Logged.report (.importsCleared i.package i.statics.length i.plains.length)
  pure { i with statics := [], plains := [] }

/-- A use of the collected names. -/
inductive Step where
  /-- The names of an outline are collected. -/
  | visit (o : Outline)
  /-- All names are forgotten. -/
  | clear

/-- What a use does to the collected names, and whether it fails. -/
def apply (i : Imports) : Step → Logged (Except NodeError Unit × Imports)
  | .visit o => i.visit o
  | .clear => do
    let i ← i.clear
    pure (.ok (), i)

/-- The lines that import names with one keyword, and a blank line after them
    if there are any. -/
def block (keyword : String) (names : List String) : String :=
  if names.isEmpty then ""
  else String.join (names.map (fun name => keyword ++ name ++ ";\n")) ++ "\n"

/-- The text of the imports. -/
def write (i : Imports) : String :=
  block "import static " i.statics ++ block "import " i.plains

end Imports

end JavaSource
