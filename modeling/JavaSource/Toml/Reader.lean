/-!
# Readers

A reader takes what it understands off the front of a text and leaves the
rest, or fails. A TOML document is read by readers that never have to take
back a decision: the characters at the front of a text always tell what must
follow, so a failure anywhere is a failure of the document.

## Main definitions

* `Reader`: What takes a value off the front of a text.
* `expect`: Reading a fixed text.
* `skipBlanks`, `newline`, `skipLines`: Reading what separates the parts of a
  document.
* `separated`: Reading a list with commas in it.
-/

namespace JavaSource

namespace Toml

/-- What takes a value off the front of a text, and leaves the rest. -/
abbrev Reader (α : Type) := List Char → Option (α × List Char)

/-- Read a fixed text. -/
def expect : List Char → List Char → Option (List Char)
  | [], cs => some cs
  | e :: es, c :: cs => if e = c then expect es cs else none
  | _ :: _, [] => none

/-- Whether a character separates the parts of a line. -/
def isBlank (c : Char) : Bool :=
  c == ' ' || c == '\t'

/-- The text after the blanks at its front. -/
def skipBlanks (cs : List Char) : List Char :=
  cs.dropWhile isBlank

/-- Whether a character may stand where no control character may. -/
def isShown (c : Char) : Bool :=
  c == '\t' || (' ' ≤ c && c != '\x7F')

/-- The text after the newline at its front. -/
def newline : List Char → Option (List Char)
  | '\n' :: cs => some cs
  | '\r' :: '\n' :: cs => some cs
  | _ => none

/-- The text after the blanks, an optional comment and the end of the line. -/
def lineEnd (cs : List Char) : Option (List Char) :=
  let rest :=
    match skipBlanks cs with
    | '#' :: cs => cs.dropWhile isShown
    | cs => cs
  if rest.isEmpty then some [] else newline rest

/-- The text after the blanks, newlines and comments at its front. A comment
    that is begun must end with a newline. -/
def skipLines : (inComment : Bool) → List Char → Option (List Char)
  | false, ' ' :: cs => skipLines false cs
  | false, '\t' :: cs => skipLines false cs
  | false, '#' :: cs => skipLines true cs
  | _, '\n' :: cs => skipLines false cs
  | _, '\r' :: '\n' :: cs => skipLines false cs
  | false, cs => some cs
  | true, c :: cs => if isShown c then skipLines true cs else none
  | true, [] => none

/-- Read items with commas between them, up to a closing mark. `skip` passes
    over what may stand around an item, and `trailing` tells whether a comma
    may stand before the closing mark. The number bounds the items read. -/
def separated {α : Type} (skip : List Char → Option (List Char)) (item : Reader α) (close : Char)
    (trailing : Bool) : Nat → Reader (List α)
  | 0, _ => none
  | n + 1, cs => do
    let (a, cs) ← item (← skip cs)
    match ← skip cs with
    | ',' :: cs =>
      match ← skip cs with
      | c :: rest =>
        if trailing && c == close then some ([a], rest)
        else do
          let (as, rest) ← separated skip item close trailing n (c :: rest)
          some (a :: as, rest)
      | [] => none
    | c :: cs => if c == close then some ([a], cs) else none
    | [] => none

/-- Read a possibly empty list of items up to a closing mark. -/
def enclosed {α : Type} (skip : List Char → Option (List Char)) (item : Reader α) (close : Char)
    (trailing : Bool) : Reader (List α) := fun cs => do
  match ← skip cs with
  | c :: rest =>
    if c == close then some ([], rest)
    else separated skip item close trailing (rest.length + 1) (c :: rest)
  | [] => none

end Toml

end JavaSource
