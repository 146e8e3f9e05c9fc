import JavaSource.Log.Event
import JavaSource.Text.Quoted

/-!
# Log Lines

An event on one line: its level, its target, its message and its values by
name.

## Main definitions

* `Event.line`: The line of an event.
-/

namespace JavaSource

namespace Log

/-- The text of a value on a line. -/
def Value.display : Value → String
  | .text s => s
  | .quoted s => Text.quoted s
  | .count n => Nat.repr n
  | .flag b => if b then "true" else "false"

/-- The name of a level, five characters wide. -/
def Level.column (l : Level) : String :=
  "".pushn ' ' (5 - l.name.length) ++ l.name

/-- The line of an event. -/
def Event.line (e : Event) : String :=
  e.level.column ++ " " ++ e.target ++ ": " ++ e.message
    ++ String.join (e.fields.map (fun (name, v) => " " ++ name ++ "=" ++ v.display))

end Log

end JavaSource
