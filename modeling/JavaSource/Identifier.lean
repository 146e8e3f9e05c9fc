import JavaSource.NodeError
import JavaSource.Text.Letter
import JavaSource.Text.Numeral

/-!
# Identifiers

A name that the language accepts for a variable, a method or a class: it
starts with a letter, goes on with letters and numerals, and is no word of
the language itself. The underscore and the dollar sign count as letters.

## Main definitions

* `Identifier`: A checked name.
* `Identifier.derive`: Checking a name.
-/

namespace JavaSource

/-- A name of a variable, a method or a class. -/
structure Identifier where
  /-- The name itself. -/
  name : String
deriving DecidableEq, Repr

namespace Identifier

/-- The words of the language, which name nothing else. -/
def reservedWords : List String :=
  ["abstract", "assert", "boolean", "break", "byte", "case", "catch", "char", "class", "const",
    "continue", "default", "do", "double", "else", "enum", "extends", "final", "finally", "float",
    "for", "goto", "if", "implements", "import", "instanceof", "int", "interface", "long",
    "native", "new", "package", "private", "protected", "public", "return", "short", "static",
    "strictfp", "super", "switch", "synchronized", "this", "throw", "throws", "transient", "try",
    "void", "volatile", "while", "true", "false", "null", "_"]

/-- Whether an identifier may start with the character. -/
def isStart (c : Char) : Bool :=
  Text.isLetter c || c == '_' || c == '$'

/-- Whether an identifier may go on with the character. -/
def isPart (c : Char) : Bool :=
  Text.isLetter c || Text.isNumeral c || c == '_' || c == '$'

/-- Whether the characters spell an identifier, words of the language
    included. -/
def isSpelled : List Char → Bool
  | [] => false
  | c :: rest => isStart c && rest.all isPart

/-- Check a name for a node. -/
def derive (node : NodeKind) (name : String) : Build Identifier := do
  if name.isEmpty then
    reject (.missing node .name)
  else if !isSpelled name.toList then
    rejectFault node (.notAnIdentifier name)
  else if reservedWords.contains name then
    rejectFault node (.reservedWord name)
  else
    pure ⟨name⟩

instance : Ord Identifier where
  compare a b := compare a.name b.name

end Identifier

end JavaSource
