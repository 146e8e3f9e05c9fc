import JavaSource.Log.Logged
import JavaSource.Text.Blank

/-!
# Documentation Comments

A documentation comment is laid out from a free text: on one line if the
text has one line and fits, and else as a block whose lines are filled
greedily. Lines of the text are paragraphs: words of different lines never
share a line of the comment, and blank lines between them become one blank
line.

A text that contains the end mark of a comment would end it early, so it is
refused; a refused comment is dropped and reported, and the source around it
stands.

Widths are counted in characters, and words are separated by any blank
character.

## Main definitions

* `Layout`: The width and the indentation of comments.
* `wrap`: Filling lines with words.
* `Page.put`, `Layout.writeParagraph`, `Layout.addParagraph`: The same word by
  word and paragraph by paragraph, onto lines that stand already.
* `Layout.format`: The comment of a text.
* `Formatter`, `writeComment`: Any way to lay out comments, and dropping what
  it refuses.

## Theorems

* `flatten_fill`: Filling a line neither loses nor moves a word.
* `flatten_wrap`: The words of the lines are the words of the paragraph.
-/

namespace JavaSource

namespace Comment

open Text (words lines trim)

/-- Why a text has no comment. -/
inductive FormatError where
  /-- The text contains the end mark, with so many bytes before it. -/
  | terminator (offset : Nat)
  /-- A formatter failed for its own reasons. -/
  | formatter (name message : String)
deriving DecidableEq, Repr

/-- What an error says. -/
def FormatError.message : FormatError → String
  | .terminator offset => s!"comment text contains a block terminator at byte {offset}"
  | .formatter name message => s!"{name} failed: {message}"

/-- A way to lay out comments. -/
abbrev Formatter := String → Except FormatError String

/-- The bytes before the first end mark of a comment. -/
def findTerminator : List Char → Option Nat
  | [] => none
  | c :: rest =>
    if c = '*' ∧ rest.head? = some '/' then some 0
    else (findTerminator rest).map (c.utf8Size + ·)

/-- Words with single spaces between them. -/
def spaced (ws : List (List Char)) : List Char :=
  [' '].intercalate ws

/-- Fill up a line that is `width` wide with the words that still fit, and put
    the others on further lines. The first component is the rest of the line. -/
def fill (budget width : Nat) : List (List Char) → List (List Char) × List (List (List Char))
  | [] => ([], [])
  | w :: ws =>
    if width + 1 + w.length ≤ budget then
      let (line, further) := fill budget (width + 1 + w.length) ws
      (w :: line, further)
    else
      let (line, further) := fill budget w.length ws
      ([], (w :: line) :: further)

/-- Filling a line neither loses nor moves a word. -/
theorem flatten_fill (budget width : Nat) (ws : List (List Char)) :
    (fill budget width ws).1 ++ (fill budget width ws).2.flatten = ws := by
  induction ws generalizing width with
  | nil => rfl
  | cons w ws ih =>
      simp only [fill]
      split
      · simp only [List.cons_append, ih]
      · simp only [List.nil_append, List.flatten_cons, List.cons_append, ih]

/-- The lines of a paragraph, as lists of words. A line takes words as long as
    it stays within the budget; its first word it takes in any case. -/
def wrap (budget : Nat) : List (List Char) → List (List (List Char))
  | [] => []
  | w :: ws =>
    let (line, further) := fill budget w.length ws
    (w :: line) :: further

/-- The words of the lines are the words of the paragraph. -/
theorem flatten_wrap (budget : Nat) (ws : List (List Char)) : (wrap budget ws).flatten = ws := by
  cases ws with
  | nil => rfl
  | cons w ws => simp only [wrap, List.flatten_cons, List.cons_append, flatten_fill]

/-- Lines that stand, and the line that is being written. No line is being written if it
    is empty. -/
structure Page where
  lines : List (List Char)
  line : List Char

namespace Page

/-- Add a word: to the line if there is room, and else to a new one. -/
def put (budget : Nat) (p : Page) (w : List Char) : Page :=
  if p.line.isEmpty then ⟨p.lines, w⟩
  else if p.line.length + 1 + w.length ≤ budget then ⟨p.lines, p.line ++ ' ' :: w⟩
  else ⟨p.lines ++ [p.line], w⟩

/-- The lines once the last one is done. -/
def done (p : Page) : List (List Char) :=
  if p.line.isEmpty then p.lines else p.lines ++ [p.line]

end Page

/-- The lines of a block, from the paragraphs of a text. `started` tells
    whether a line stands already, `parted` whether a blank line is due before
    the next one. A blank line is empty. -/
def blockLines (budget : Nat) (started parted : Bool) : List (List Char) → List (List Char)
  | [] => []
  | paragraph :: rest =>
    match words paragraph with
    | [] => blockLines budget started started rest
    | w :: ws =>
      (if parted then [[]] else []) ++ (wrap budget (w :: ws)).map spaced
        ++ blockLines budget true false rest

/-- The width and the indentation of comments. -/
structure Layout where
  /-- The greatest number of characters on a line. -/
  maxLineLength : Nat
  /-- What stands before every line. -/
  indent : String
deriving DecidableEq, Repr

namespace Layout

/-- The layout used unless told otherwise. -/
def standard : Layout :=
  ⟨100, ""⟩

/-- The characters that stand before every line. -/
def margin (l : Layout) : List Char :=
  l.indent.toList

/-- A text on one line, between the marks of a comment. -/
def oneLine (l : Layout) (text : List Char) : List Char :=
  match words text with
  | [] => l.margin ++ "/** */".toList
  | w :: ws => l.margin ++ "/** ".toList ++ spaced (w :: ws) ++ " */".toList

/-- Whether the comment of a text is one line. -/
def fitsOneLine (l : Layout) (text : List Char) : Bool :=
  !text.contains '\n' && (l.oneLine text).length ≤ l.maxLineLength

/-- The characters left for words on a line of a block. -/
def budget (l : Layout) : Nat :=
  l.maxLineLength - (l.margin.length + 3)

/-- Add the words of a paragraph to lines that stand. -/
def writeParagraph (l : Layout) (out : List (List Char)) (paragraph : List Char) :
    List (List Char) :=
  ((words paragraph).foldl (Page.put l.budget) ⟨out, []⟩).done

/-- Add a paragraph to the lines of a block. The flag tells whether a blank line is due
    before the next words. -/
def addParagraph (l : Layout) (s : List (List Char) × Bool) (paragraph : List Char) :
    List (List Char) × Bool :=
  if (words paragraph).isEmpty then (s.1, !s.1.isEmpty)
  else (l.writeParagraph (if s.2 then s.1 ++ [[]] else s.1) paragraph, false)

/-- A line of a block, with its mark and its end. -/
def blockLine (l : Layout) (line : List Char) : List Char :=
  l.margin ++ (if line.isEmpty then " *".toList else " * ".toList ++ line) ++ ['\n']

/-- A text as a block. -/
def block (l : Layout) (text : List Char) : List Char :=
  l.margin ++ "/**\n".toList
    ++ ((blockLines l.budget false false (lines text)).map l.blockLine).flatten
    ++ l.margin ++ " */".toList

/-- The comment of a text whose ends are not blank. -/
def arrange (l : Layout) (text : List Char) : List Char :=
  if l.fitsOneLine text then l.oneLine text else l.block text

/-- The comment of a text. -/
def format (l : Layout) : Formatter := fun text =>
  match findTerminator text.toList with
  | some offset => .error (.terminator offset)
  | none => .ok (String.ofList (l.arrange (trim text.toList)))

end Layout

/-- The comment of a text, or nothing if the formatter refuses it. -/
def writeComment (format : Formatter) (text : String) : Logged String :=
  match format text with
  | .ok comment => pure comment
  | .error e => do
    Logged.report (.commentDropped e.message text.utf8ByteSize)
    pure ""

end Comment

end JavaSource
