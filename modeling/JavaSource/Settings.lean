import JavaSource.Comment
import JavaSource.Imports
import JavaSource.Log.Filter

/-!
# Settings

What a user can choose: which packages every source sees, how documentation
comments are laid out, and what is logged and how. Each choice has a
default.

Two settings make no sense and are refused: a package without a name, and
lines of comments too short to hold a word and its marks.

## Main definitions

* `ImportSettings`, `CommentSettings`, `LogSettings`, `Settings`: The choices.
* `Settings.validate`: Refusing what makes no sense.
* `LogSession`: Logging as the settings say.
-/

namespace JavaSource

/-- What imports depend on. -/
structure ImportSettings where
  /-- The packages that every source sees. -/
  implicitPackages : List String := Imports.defaultImplicitPackages
deriving DecidableEq, Repr

/-- How documentation comments are laid out. -/
structure CommentSettings where
  /-- The greatest number of characters on a line. -/
  maxLineLength : Nat := 100
  /-- What stands before every line. -/
  indent : String := ""
deriving DecidableEq, Repr

/-- The layout of comments. -/
def CommentSettings.layout (s : CommentSettings) : Comment.Layout :=
  ⟨s.maxLineLength, s.indent⟩

/-- What is logged and how. -/
structure LogSettings where
  /-- The spelling of a filter. -/
  level : String := "info"
  /-- Whether events are written as JSON objects. -/
  json : Bool := false
deriving DecidableEq, Repr

/-- All settings. -/
structure Settings where
  /-- What imports depend on. -/
  imports : ImportSettings := {}
  /-- How documentation comments are laid out. -/
  comments : CommentSettings := {}
  /-- What is logged and how. -/
  logging : LogSettings := {}
deriving DecidableEq, Repr

/-- Settings that make no sense. -/
inductive InvalidSetting where
  /-- The package at an index has no name. -/
  | blankPackage (index : Nat)
  /-- Lines of comments are too short. -/
  | narrowComments (width : Nat)
deriving DecidableEq, Repr

/-- The least width of lines of comments. -/
def CommentSettings.leastWidth : Nat := 20

/-- What an error says. -/
def InvalidSetting.message : InvalidSetting → String
  | .blankPackage index => s!"invalid `imports.implicit_packages`: entry {index} is empty"
  | .narrowComments width =>
    s!"invalid `comments.max_line_length`: {width} is below the minimum of {CommentSettings.leastWidth}"

namespace Settings

/-- Whether a name has no characters but blanks. -/
def isBlankName (name : String) : Bool :=
  name.toList.all Text.isBlank

/-- Refuse settings that make no sense. -/
def validate (s : Settings) : Except InvalidSetting Unit :=
  match s.imports.implicitPackages.findIdx? isBlankName with
  | some index => .error (.blankPackage index)
  | none =>
    if s.comments.maxLineLength < CommentSettings.leastWidth then
      .error (.narrowComments s.comments.maxLineLength)
    else
      .ok ()

end Settings

/-- Logging as the settings say. -/
structure LogSession where
  /-- Which events are written. -/
  filter : Log.Filter
  /-- Whether they are written as JSON objects. -/
  json : Bool

namespace LogSession

/-- Start logging, and report it. -/
def start (s : LogSettings) (environment : Option String) : Logged LogSession := do
  Logged.report (.loggingStarted s.level s.json)
  pure ⟨Log.Filter.choose s.level environment, s.json⟩

/-- Start logging with the first of several settings: once started, logging
    cannot be started again. -/
def startFirst (settings : List LogSettings) (environment : Option String) :
    Logged (Option LogSession) :=
  match settings with
  | [] => pure none
  | s :: _ => some <$> start s environment

/-- The events that are written. -/
def written (s : LogSession) (events : List Log.Event) : List Log.Event :=
  events.filter s.filter.enables

end LogSession

end JavaSource
