/-!
# Log Events

Everything the library reports about its work, as data. An event says what
happened; its level, its target, the message and the named values that go
with it are read off in one place, so that two reports of the same happening
cannot differ in wording.

## Main definitions

* `Level`: How severe an event is.
* `Event`: What can happen.
* `Event.level`, `Event.target`, `Event.message`, `Event.fields`: Its report.
-/

namespace JavaSource

namespace Log

/-- The severity of an event. -/
inductive Level where
  | error
  | warn
  | info
  | debug
  | trace
deriving DecidableEq, Repr

/-- The detail of a level: the more severe, the smaller. -/
def Level.rank : Level → Nat
  | .error => 1
  | .warn => 2
  | .info => 3
  | .debug => 4
  | .trace => 5

/-- The name of a level, in capitals. -/
def Level.name : Level → String
  | .error => "ERROR"
  | .warn => "WARN"
  | .info => "INFO"
  | .debug => "DEBUG"
  | .trace => "TRACE"

/-- A value reported with an event. A quoted text is one whose ends matter to
    the reader of a log line. -/
inductive Value where
  | text (s : String)
  | quoted (s : String)
  | count (n : Nat)
  | flag (b : Bool)
deriving DecidableEq, Repr

/-- What the library reports. -/
inductive Event where
  /-- A node could not be built. -/
  | nodeRejected (kind error : String)
  /-- A name needs no import. -/
  | nameDropped (name : String)
  /-- A name of a nested type was collected. -/
  | staticImport (name : String)
  /-- A name of a top-level type was collected. -/
  | plainImport (name : String)
  /-- A try statement stopped the collection of names. -/
  | tryCatchRejected (reason : String)
  /-- All collected names are about to be forgotten. -/
  | importsCleared (package : String) (statics plains : Nat)
  /-- The text of a source file is complete. -/
  | unitRendered (package className : String) (statics plains : Nat)
  /-- A documentation comment could not be laid out; `size` counts the bytes
      of its text. -/
  | commentDropped (error : String) (size : Nat)
  /-- Settings were read from a file. -/
  | configLoaded (path : String) (packages : Nat)
  /-- A log filter was installed. -/
  | loggingStarted (level : String) (json : Bool)
deriving DecidableEq, Repr

/-- How severe an event is. -/
def Event.level : Event → Level
  | .nameDropped _ | .staticImport _ | .plainImport _ => .trace
  | .commentDropped _ _ => .warn
  | _ => .debug

/-- The part of the library an event comes from. -/
def Event.target : Event → String
  | .nodeRejected _ _ => "jgen.ast"
  | .commentDropped _ _ => "jgen.format"
  | .configLoaded _ _ | .loggingStarted _ _ => "jgen.config"
  | _ => "jgen.writer"

/-- The fixed wording of an event. -/
def Event.message : Event → String
  | .nodeRejected _ _ => "builder rejected node"
  | .nameDropped _ => "implicitly visible, dropped"
  | .staticImport _ => "static import"
  | .plainImport _ => "import"
  | .tryCatchRejected _ => "rejecting try/catch statement"
  | .importsCleared _ _ _ => "clearing import sets"
  | .unitRendered _ _ _ _ => "rendered compilation unit"
  | .commentDropped _ _ => "documentation comment dropped"
  | .configLoaded _ _ => "loaded engine config"
  | .loggingStarted _ _ => "tracing initialized"

/-- The named values of an event, in the order they are reported. -/
def Event.fields : Event → List (String × Value)
  | .nodeRejected kind error => [("kind", .text kind), ("error", .text error)]
  | .nameDropped name | .staticImport name | .plainImport name => [("name", .text name)]
  | .tryCatchRejected reason => [("reason", .quoted reason)]
  | .importsCleared package statics plains =>
    [("package", .text package), ("static_imports", .count statics), ("imports", .count plains)]
  | .unitRendered package className statics plains =>
    [("package", .text package), ("class", .text className),
      ("static_imports", .count statics), ("imports", .count plains)]
  | .commentDropped error size => [("error", .text error), ("len", .count size)]
  | .configLoaded path packages => [("path", .text path), ("implicit_packages", .count packages)]
  | .loggingStarted level json => [("level", .text level), ("json", .flag json)]

end Log

end JavaSource
