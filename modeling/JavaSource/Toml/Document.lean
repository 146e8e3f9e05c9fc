import JavaSource.Toml.Number
import JavaSource.Toml.Section

/-!
# TOML Documents

A document is a sequence of lines: headers, keys with their values, comments
and blank lines. Reading goes in two steps. The first reads the lines one
after the other; only a value in brackets or triple quotes goes over the end
of a line. The second opens tables and fills them as the lines say, and
fails if two lines disagree on a table.

## Main definitions

* `value`: Reading a value.
* `Line`: What a line says.
* `readLines`: The lines of a document.
* `Document.parse`: The table that a document spells.
-/

namespace JavaSource

namespace Toml

/-- Read a key, the equals sign and a value. -/
def keyValue (value : Reader Value) : Reader (List String × Value) := fun cs => do
  let (path, cs) ← keyPath cs
  let cs ← expect ['='] cs
  let (v, cs) ← value (skipBlanks cs)
  some ((path, v), cs)

/-- The table that keys with their values spell between braces. -/
def inlineTable (pairs : List (List String × Value)) : Option Value := do
  let item ← pairs.foldlM (fun item (path, v) => item.insert path v) Item.emptyTable
  some item.toValue

/-- Read a value without brackets or braces around it. -/
def scalar : Reader Value := fun cs =>
  match cs with
  | '"' :: _ | '\x27' :: _ => (text cs).map (fun (s, cs) => (.string s, cs))
  | 't' :: cs => (expect ['r', 'u', 'e'] cs).map (.boolean true, ·)
  | 'f' :: cs => (expect ['a', 'l', 's', 'e'] cs).map (.boolean false, ·)
  | cs => numeric cs

/-- Read a value in which brackets and braces nest at most so deeply. -/
def value : Nat → Reader Value
  | 0, cs => scalar cs
  | depth + 1, cs =>
    match cs with
    | '[' :: cs => do
      let (elements, cs) ← enclosed (skipLines false) (value depth) ']' true cs
      some (.array elements, cs)
    | '\x7b' :: cs => do
      let (pairs, cs) ←
        enclosed (fun cs => some (skipBlanks cs)) (keyValue (value depth)) '\x7d' false cs
      let v ← inlineTable pairs
      some (v, cs)
    | cs => scalar cs

/-- What a line of a document says. -/
inductive Line where
  /-- A header opens a table. -/
  | header (path : List String)
  /-- A header in double brackets opens a further table of a list. -/
  | element (path : List String)
  /-- A key has a value. -/
  | pair (path : List String) (v : Value)

/-- Read a line, up to its end. -/
def line : Reader Line
  | '[' :: '[' :: cs => do
    let (path, cs) ← keyPath cs
    let cs ← expect [']', ']'] cs
    some (.element path, ← lineEnd cs)
  | '[' :: cs => do
    let (path, cs) ← keyPath cs
    let cs ← expect [']'] cs
    some (.header path, ← lineEnd cs)
  | cs => do
    let ((path, v), cs) ← keyValue (value (depthLimit - 1)) cs
    some (.pair path v, ← lineEnd cs)

/-- The lines of a document, comments and blank lines apart. The number bounds
    the lines read. -/
def linesWithin : Nat → List Char → Option (List Line)
  | 0, _ => none
  | n + 1, cs =>
    match skipBlanks cs with
    | [] => some []
    | '#' :: rest => do
      let rest ← lineEnd ('#' :: rest)
      linesWithin n rest
    | c :: rest =>
      match newline (c :: rest) with
      | some rest => linesWithin n rest
      | none => do
        let (l, rest) ← line (c :: rest)
        let ls ← linesWithin n rest
        some (l :: ls)

/-- The lines of a document, comments and blank lines apart. A byte order mark
    at the start is no part of the document. -/
def readLines (cs : List Char) : Option (List Line) :=
  let cs :=
    match cs with
    | '\uFEFF' :: rest => rest
    | cs => cs
  linesWithin (cs.length + 1) cs

namespace Document

/-- A document being read: the tables so far, and the path of the table that
    is being filled. -/
structure State where
  /-- All tables so far. -/
  root : Item
  /-- The path of the open table. -/
  current : List String

/-- What a line does to the tables. -/
def State.apply (s : State) : Line → Option State
  | .header path => (s.root.openTable path).map (⟨·, path⟩)
  | .element path => (s.root.openElement path).map (⟨·, path⟩)
  | .pair path v => (s.root.change false (Item.insert path v) s.current).map (⟨·, s.current⟩)

/-- The table that a document spells, if it is one. -/
def parse (document : String) : Option Table := do
  let ls ← readLines document.toList
  let s ← ls.foldlM State.apply ⟨Item.emptyTable, []⟩
  some s.root.toTable

end Document

end Toml

end JavaSource
