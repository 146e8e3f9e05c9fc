import JavaSource.Decimal.Shortest
import JavaSource.Settings
import JavaSource.Text.Quoted
import JavaSource.Toml.Document

/-!
# Settings Files

Settings are kept in a TOML document with a section for each group of
choices. Every section and every key is optional. A key that is not known is
refused, so that a misspelled key never passes for a default; so is a value
of the wrong kind. The first entry that cannot be used is the one complained
about.

A section can also be an array, whose elements are the values of its keys in
their fixed order. A date counts as a table with a single key that no
section knows.

## Main definitions

* `ShapeError`: What is wrong with an entry.
* `Shape`: The keys of a section and how their values are read.
* `Settings.ofTable`: The settings of a document.
* `Settings.parse`: The settings of a text.
* `Settings.load`: The settings of a file.
-/

namespace JavaSource

open Toml (Value Table)

/-- What a value should have been. -/
inductive Expected where
  | text
  | boolean
  | natural
  | sequence
  /-- A section with a name. -/
  | group (name : String)
deriving DecidableEq, Repr

/-- The text of an expectation. -/
def Expected.display : Expected → String
  | .text => "a string"
  | .boolean => "a boolean"
  | .natural => "usize"
  | .sequence => "a sequence"
  | .group name => "struct " ++ name

/-- What is wrong with an entry of a settings file. -/
inductive ShapeError where
  /-- The key is not among those known. -/
  | unknownKey (key : String) (known : List String)
  /-- The value is of the wrong kind. -/
  | wrongKind (found : String) (expected : Expected)
  /-- The number is below zero. -/
  | negative (i : Int)
deriving DecidableEq, Repr

/-- A name between marks. -/
def marked (name : String) : String :=
  "`" ++ name ++ "`"

/-- The known keys, as a message lists them. -/
def knownKeys : List String → String
  | [a] => marked a
  | [a, b] => marked a ++ " or " ++ marked b
  | keys => "one of " ++ ", ".intercalate (keys.map marked)

/-- The decimal text of a whole number. -/
def integerText (i : Int) : String :=
  if i < 0 then "-" ++ Nat.repr i.natAbs else Nat.repr i.natAbs

/-- What an error says. -/
def ShapeError.message : ShapeError → String
  | .unknownKey key known => "unknown field " ++ marked key ++ ", expected " ++ knownKeys known
  | .wrongKind found expected =>
    "invalid type: " ++ found ++ ", expected " ++ expected.display
  | .negative i =>
    "invalid value: integer " ++ marked (integerText i) ++ ", expected " ++ Expected.natural.display

/-- What a value is, as a message says it. -/
def describe : Value → String
  | .string s => "string " ++ Text.quoted s
  | .integer i => "integer " ++ marked (integerText i)
  | .float f => "floating point " ++ marked (Decimal.floatText f)
  | .boolean b => "boolean " ++ marked (if b then "true" else "false")
  | .array _ => "sequence"
  | .moment _ | .table _ => "map"

/-- Reading a value of a settings file. -/
abbrev ReadShape := Except ShapeError

/-- Read a text. -/
def readText : Value → ReadShape String
  | .string s => pure s
  | v => throw (.wrongKind (describe v) .text)

/-- Read a truth value. -/
def readBoolean : Value → ReadShape Bool
  | .boolean b => pure b
  | v => throw (.wrongKind (describe v) .boolean)

/-- Read a natural number. -/
def readNatural : Value → ReadShape Nat
  | .integer i => if i < 0 then throw (.negative i) else pure i.natAbs
  | v => throw (.wrongKind (describe v) .natural)

/-- Read a list of texts. -/
def readTexts : Value → ReadShape (List String)
  | .array elements => elements.mapM readText
  | v => throw (.wrongKind (describe v) .sequence)

/-- The keys of a section and what their values do to its settings. -/
structure Shape (σ : Type) where
  /-- The name of the section in messages. -/
  name : String
  /-- The keys, in their fixed order. -/
  keys : List (String × (σ → Value → ReadShape σ))

namespace Shape

variable {σ : Type}

/-- The names of the keys. -/
def known (shape : Shape σ) : List String :=
  shape.keys.map Prod.fst

/-- Read the value of one key. -/
def readKey (shape : Shape σ) (s : σ) (key : String) (v : Value) : ReadShape σ :=
  match shape.keys.lookup key with
  | some read => read s v
  | none => throw (.unknownKey key shape.known)

/-- Read a table of keys with their values. -/
def readTable (shape : Shape σ) (s : σ) : Table → ReadShape σ
  | [] => pure s
  | (key, v) :: rest => do
    let s ← shape.readKey s key v
    readTable shape s rest

/-- Read values in the fixed order of the keys. Keys without a value keep
    their default. -/
def readPositions : List (String × (σ → Value → ReadShape σ)) → σ → List Value → ReadShape σ
  | (_, read) :: keys, s, v :: rest => do
    let s ← read s v
    readPositions keys s rest
  | _, s, _ => pure s

/-- The key that a date has as a table. -/
def momentKey : String := "$__toml_private_datetime"

/-- Read a section. -/
def read (shape : Shape σ) (s : σ) : Value → ReadShape σ
  | .table entries => shape.readTable s entries
  | .array elements => readPositions shape.keys s elements
  | .moment _ => throw (.unknownKey momentKey shape.known)
  | v => throw (.wrongKind (describe v) (.group shape.name))

end Shape

/-- The section on imports. -/
def ImportSettings.shape : Shape ImportSettings :=
  { name := "ImportsConfig"
    keys :=
      [("implicit_packages", fun s v => do
        let implicitPackages ← readTexts v
        pure { s with implicitPackages })] }

/-- The section on comments. -/
def CommentSettings.shape : Shape CommentSettings :=
  { name := "CommentsConfig"
    keys :=
      [("max_line_length", fun s v => do
        let maxLineLength ← readNatural v
        pure { s with maxLineLength }),
       ("indent", fun s v => do
        let indent ← readText v
        pure { s with indent })] }

/-- The section on logging. -/
def LogSettings.shape : Shape LogSettings :=
  { name := "LoggingConfig"
    keys :=
      [("level", fun s v => do
        let level ← readText v
        pure { s with level }),
       ("json", fun s v => do
        let json ← readBoolean v
        pure { s with json })] }

/-- The whole document. -/
def Settings.shape : Shape Settings :=
  { name := "EngineConfig"
    keys :=
      [("imports", fun s v => do
        let imports ← ImportSettings.shape.read {} v
        pure { s with imports }),
       ("comments", fun s v => do
        let comments ← CommentSettings.shape.read {} v
        pure { s with comments }),
       ("logging", fun s v => do
        let logging ← LogSettings.shape.read {} v
        pure { s with logging })] }

/-- Why a file gives no settings. -/
inductive SettingsError where
  /-- The file cannot be read as text. -/
  | unreadable (path : String)
  /-- The text is no TOML document. -/
  | malformed
  /-- The document has an entry that cannot be used. -/
  | shape (e : ShapeError)
  /-- The settings make no sense. -/
  | invalid (e : InvalidSetting)
deriving DecidableEq, Repr

/-- What an error about the content of a file says. -/
def SettingsError.message : SettingsError → String
  | .unreadable path => "failed to read config file " ++ path
  | .malformed => "failed to parse toml config"
  | .shape e => "failed to parse toml config: " ++ e.message
  | .invalid e => e.message

namespace Settings

/-- The settings of a document. -/
def ofTable (t : Table) : ReadShape Settings :=
  Settings.shape.readTable {} t

/-- The settings of a text. -/
def parse (text : String) : Except SettingsError Settings :=
  match Toml.Document.parse text with
  | none => .error .malformed
  | some t =>
    match ofTable t with
    | .error e => .error (.shape e)
    | .ok s =>
      match s.validate with
      | .error e => .error (.invalid e)
      | .ok () => .ok s

/-- The settings of a file, from its path and its bytes, if there are any. -/
def load (path : String) (content : Option ByteArray) : Logged (Except SettingsError Settings) :=
  match content.bind String.fromUTF8? with
  | none => pure (.error (.unreadable path))
  | some text =>
    match parse text with
    | .error e => pure (.error e)
    | .ok s => do
      Logged.report (.configLoaded path s.imports.implicitPackages.length)
      pure (.ok s)

end Settings

end JavaSource
