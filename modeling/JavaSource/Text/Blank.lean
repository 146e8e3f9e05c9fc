/-!
# Blank Characters, Words and Lines

A text is read in two ways: as words, which blanks separate, and as lines,
which newlines separate. Both views drop the separators, so a text is only
known up to the blanks between its words. `trim` removes the blanks at both
ends.

Texts are lists of characters here, because every layout question is about
counting and cutting characters.

## Main definitions

* `isBlank`: The characters with the property `White_Space`.
* `words`: The maximal runs of characters that are not blank.
* `lines`: The pieces between newlines.
* `trim`: A text without the blanks at its ends.
-/

namespace JavaSource

namespace Text

/-- Whether a character is white space: the ASCII controls from tab to
    carriage return, the spaces of all widths, and the line and paragraph
    separators. -/
def isBlank (c : Char) : Bool :=
  let n := c.toNat
  (0x9 ≤ n && n ≤ 0xD) || n == 0x20 || n == 0x85 || n == 0xA0 || n == 0x1680
    || (0x2000 ≤ n && n ≤ 0x200A) || n == 0x2028 || n == 0x2029 || n == 0x202F
    || n == 0x205F || n == 0x3000

/-- The words of a text, in order. -/
def words (text : List Char) : List (List Char) :=
  (text.splitOnP isBlank).filter (fun w => !w.isEmpty)

/-- The lines of a text, in order; a text without a newline is one line. -/
def lines (text : List Char) : List (List Char) :=
  text.splitOn '\n'

/-- A text without the blanks at its end. -/
def trimEnd (text : List Char) : List Char :=
  (text.reverse.dropWhile isBlank).reverse

/-- A text without the blanks at its ends. -/
def trim (text : List Char) : List Char :=
  trimEnd (text.dropWhile isBlank)

/-- A text without the blanks at its ends. -/
def trimmed (text : String) : String :=
  String.ofList (trim text.toList)

end Text

end JavaSource
