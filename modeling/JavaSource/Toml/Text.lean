import JavaSource.Toml.Reader

/-!
# TOML Texts and Keys

A text stands between quotes of four kinds. Between double quotes a
backslash announces a character that cannot be shown; between single quotes
every character stands for itself. Either kind of quote written three times
encloses a text of several lines, which drops a newline at its start and may
end in up to two quotes of its own.

A key is a bare word or a text on one line, and a dotted key is a path of
them.

## Main definitions

* `escape`: The character that a backslash announces.
* `basicText`, `literalText`, `longBasicText`, `longLiteralText`: The four
  kinds of text, after the opening quotes.
* `text`: Any text.
* `keyPath`: A dotted key.
-/

namespace JavaSource

namespace Toml

/-- The value of a hexadecimal digit. -/
def hexDigit? (c : Char) : Option Nat :=
  if '0' ≤ c ∧ c ≤ '9' then some (c.toNat - '0'.toNat)
  else if 'a' ≤ c ∧ c ≤ 'f' then some (c.toNat - 'a'.toNat + 10)
  else if 'A' ≤ c ∧ c ≤ 'F' then some (c.toNat - 'A'.toNat + 10)
  else none

/-- The character that a letter after a backslash stands for. -/
def shortEscape? : Char → Option Char
  | 'b' => some '\x08'
  | 't' => some '\t'
  | 'n' => some '\n'
  | 'f' => some '\x0C'
  | 'r' => some '\r'
  | '"' => some '"'
  | '\\' => some '\\'
  | _ => none

/-- The character with a number, if there is one. -/
def charOfCode? (n : Nat) : Option Char :=
  if n.isValidChar then some (Char.ofNat n) else none

/-- Read the rest of a character's number, of which `value` is read already. -/
def hexCode : (digits value : Nat) → Reader Char
  | 0, value, cs => (charOfCode? value).map (·, cs)
  | n + 1, value, c :: cs => do
    let d ← hexDigit? c
    hexCode n (value * 16 + d) cs
  | _ + 1, _, [] => none

/-- Read the character that a backslash announces, after the backslash. -/
def escape : Reader Char
  | 'u' :: cs => hexCode 4 0 cs
  | 'U' :: cs => hexCode 8 0 cs
  | c :: cs => (shortEscape? c).map (·, cs)
  | [] => none

/-- Put a character in front of a text that is read. -/
def consText (c : Char) (result : Option (List Char × List Char)) :
    Option (List Char × List Char) :=
  result.map (fun (text, rest) => (c :: text, rest))

/-- Read a text between double quotes, after the opening one. The number
    bounds the characters read. -/
def basicText : Nat → Reader (List Char)
  | 0, _ => none
  | _ + 1, [] => none
  | _ + 1, '"' :: cs => some ([], cs)
  | n + 1, '\\' :: cs => do
    let (c, cs) ← escape cs
    consText c (basicText n cs)
  | n + 1, c :: cs => if isShown c then consText c (basicText n cs) else none

/-- Read a text between single quotes, after the opening one. -/
def literalText : Reader (List Char)
  | [] => none
  | '\x27' :: cs => some ([], cs)
  | c :: cs => if isShown c then consText c (literalText cs) else none

/-- The text after a backslash that stands at the end of a line: the blanks
    and newlines at its front are dropped. -/
def dropLineBreak (cs : List Char) : Option (List Char) := do
  let rest ← newline (skipBlanks cs)
  skipBreaks rest
where
  /-- The text after the blanks and newlines at its front. -/
  skipBreaks : List Char → Option (List Char)
    | ' ' :: cs => skipBreaks cs
    | '\t' :: cs => skipBreaks cs
    | '\n' :: cs => skipBreaks cs
    | '\r' :: '\n' :: cs => skipBreaks cs
    | cs => some cs

/-- Read a text between triple double quotes, after the opening ones. The
    number bounds the characters read. -/
def longBasicText : Nat → Reader (List Char)
  | 0, _ => none
  | _ + 1, [] => none
  | _ + 1, '"' :: '"' :: '"' :: '"' :: '"' :: cs => some (['"', '"'], cs)
  | _ + 1, '"' :: '"' :: '"' :: '"' :: cs => some (['"'], cs)
  | _ + 1, '"' :: '"' :: '"' :: cs => some ([], cs)
  | n + 1, '"' :: cs => consText '"' (longBasicText n cs)
  | n + 1, '\\' :: cs =>
    match dropLineBreak cs with
    | some cs => longBasicText n cs
    | none => do
      let (c, cs) ← escape cs
      consText c (longBasicText n cs)
  | n + 1, c :: cs =>
    match newline (c :: cs) with
    | some cs => consText '\n' (longBasicText n cs)
    | none => if isShown c then consText c (longBasicText n cs) else none

/-- Read a text between triple single quotes, after the opening ones. -/
def longLiteralText : Reader (List Char)
  | [] => none
  | '\x27' :: '\x27' :: '\x27' :: '\x27' :: '\x27' :: cs => some (['\x27', '\x27'], cs)
  | '\x27' :: '\x27' :: '\x27' :: '\x27' :: cs => some (['\x27'], cs)
  | '\x27' :: '\x27' :: '\x27' :: cs => some ([], cs)
  | '\n' :: cs => consText '\n' (longLiteralText cs)
  | '\r' :: '\n' :: cs => consText '\n' (longLiteralText cs)
  | c :: cs => if isShown c then consText c (longLiteralText cs) else none

/-- The text without a newline at its front. -/
def dropFirstNewline (cs : List Char) : List Char :=
  (newline cs).getD cs

/-- A text that is read, as a string. -/
def asString : Option (List Char × List Char) → Option (String × List Char) :=
  Option.map (fun (text, rest) => (String.ofList text, rest))

/-- Read a text with its quotes. -/
def text : Reader String
  | '"' :: '"' :: '"' :: cs =>
    asString (longBasicText (cs.length + 1) (dropFirstNewline cs))
  | '"' :: cs => asString (basicText (cs.length + 1) cs)
  | '\x27' :: '\x27' :: '\x27' :: cs => asString (longLiteralText (dropFirstNewline cs))
  | '\x27' :: cs => asString (literalText cs)
  | _ => none

/-- Whether a character may stand in a bare key. -/
def isBareKey (c : Char) : Bool :=
  ('a' ≤ c && c ≤ 'z') || ('A' ≤ c && c ≤ 'Z') || ('0' ≤ c && c ≤ '9') || c == '-' || c == '_'

/-- Read a key without dots. -/
def simpleKey : Reader String
  | '"' :: cs => asString (basicText (cs.length + 1) cs)
  | '\x27' :: cs => asString (literalText cs)
  | cs =>
    let key := cs.takeWhile isBareKey
    if key.isEmpty then none else some (String.ofList key, cs.dropWhile isBareKey)

/-- The depth at which keys, arrays and tables nest too deeply to be read. -/
def depthLimit : Nat := 80

/-- Read a dotted key with the blanks around it, of at most so many parts. -/
def keyPathWithin : Nat → Reader (List String)
  | 0, _ => none
  | n + 1, cs => do
    let (key, cs) ← simpleKey (skipBlanks cs)
    match skipBlanks cs with
    | '.' :: cs => do
      let (path, cs) ← keyPathWithin n cs
      some (key :: path, cs)
    | cs => some ([key], cs)

/-- Read a dotted key with the blanks around it. -/
def keyPath : Reader (List String) :=
  keyPathWithin (depthLimit - 1)

end Toml

end JavaSource
