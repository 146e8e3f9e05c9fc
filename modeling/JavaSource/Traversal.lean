import JavaSource.Visitor

/-!
# Traversals

A traversal enters the nodes of an outline from the root downwards, each
node before the nodes below it. On entering a node a visitor acts, and says
whether the traversal goes on below the node. An action that fails ends the
traversal on the spot.

The simplest visitor keeps a record of the nodes it enters. It handles some
nodes and passes the others by; below a node that it handles it may decline
to go; and it can be told to fail after a number of records.

## Main definitions

* `Outline.traverse`: Entering the nodes of an outline.
* `Recorder`: A visitor that keeps a record.
* `Recorder.record`: Its record of an outline.
* `Recorder.visitor`: The same visitor by its methods.
-/

namespace JavaSource

namespace Outline

mutual

/-- Enter the nodes of an outline; `enter` tells whether to go on below. -/
def traverse {m : Type → Type} [Monad m] (enter : Node → m Bool) : Outline → m Unit
  | node label children => do
    let below ← enter label
    if below then traverseAll enter children else pure ()

/-- Enter the nodes of several outlines, one after the other. -/
def traverseAll {m : Type → Type} [Monad m] (enter : Node → m Bool) : List Outline → m Unit
  | [] => pure ()
  | o :: rest => do
    traverse enter o
    traverseAll enter rest

end

end Outline

/-- A visitor that keeps a record of the nodes it handles. -/
structure Recorder where
  /-- The nodes that are recorded. -/
  handles : Node → Bool
  /-- The recorded nodes below which the traversal does not go. -/
  prunes : Node → Bool
  /-- The number of records after which the next one fails. -/
  failAt : Option Nat

namespace Recorder

/-- What the visitor does on entering a node. -/
def enter (r : Recorder) (n : Node) : ExceptT Unit (StateM (Array Node)) Bool := do
  if r.handles n then
    let seen ← get
    if r.failAt == some seen.size then
      throw ()
    else
      set (seen.push n)
      pure (!r.prunes n)
  else
    pure true

/-- The record of an outline, and whether the traversal failed. -/
def record (r : Recorder) (o : Outline) : Array Node × Bool :=
  match ((o.traverse r.enter).run).run #[] with
  | (.ok (), seen) => (seen, false)
  | (.error (), seen) => (seen, true)

/-- What the methods of the visitor do at a node: one that is overridden puts
    the node on record, and runs the walk over its parts unless it prunes. -/
def visit (r : Recorder) (n : Node) (walk : ExceptT Unit (StateM (Array Node)) Unit) :
    ExceptT Unit (StateM (Array Node)) Unit :=
  if r.handles n then do
    let seen ← get
    if r.failAt == some seen.size then
      throw ()
    else
      set (seen.push n)
      if r.prunes n then pure () else walk
  else
    walk

/-- The methods of the visitor. -/
def visitor (r : Recorder) : Visitor (ExceptT Unit (StateM (Array Node))) :=
  .uniform r.visit

end Recorder

end JavaSource
