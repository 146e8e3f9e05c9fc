import JavaSource.Comment
import JavaSource.CompilationUnit

/-!
# Skeletons

A renderer for previews. It keeps the names of the classes it was asked for,
and answers with a text it was given, with a failure it was told to show, or
with the skeleton of the class: a comment, the head of the class and the
heads of its methods.

## Main definitions

* `Skeleton`: What the renderer is told.
* `Skeleton.renderer`: The renderer.
-/

namespace JavaSource

/-- What a renderer of skeletons is told. -/
structure Skeleton where
  /-- The failure to show, if any. -/
  failure : Option String
  /-- The text to answer with, if any. -/
  body : Option String
  /-- The text of the comment before the class, if any. -/
  comment : Option String
  /-- How comments are laid out. -/
  formatter : Comment.Formatter

namespace Skeleton

/-- The head of a method. -/
def methodHead (m : Method) : String :=
  "  " ++ m.scope.display ++ " " ++ m.identifier.name ++ "();\n"

/-- A class with the heads of its methods. -/
def classText (c : ClassDecl) : String :=
  c.scope.display ++ " class " ++ c.name ++ " \x7b\n"
    ++ String.join (c.methods.map methodHead) ++ "\x7d"

/-- The comment before a class, on lines of its own. -/
def commentText (k : Skeleton) : Logged String :=
  match k.comment with
  | none => pure ""
  | some text => do
    let comment ← Comment.writeComment k.formatter text
    pure (comment ++ "\n")

/-- The renderer, whose state is the names of the classes it was asked for. -/
def renderer (k : Skeleton) : Renderer (List String) := fun c asked => do
  let asked := asked ++ [c.name]
  match k.failure, k.body with
  | some message, _ => pure (.error (.render c.name message), asked)
  | none, some body => pure (.ok body, asked)
  | none, none => do
    let comment ← k.commentText
    pure (.ok (comment ++ classText c), asked)

end Skeleton

end JavaSource
