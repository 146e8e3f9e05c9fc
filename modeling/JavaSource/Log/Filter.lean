import JavaSource.Log.Event
import JavaSource.Text.Blank
import JavaSource.Text.Letter
import JavaSource.Text.Numeral

/-!
# Log Filters

A filter decides which events are written. It is a set of directives, at
most one for each target and one for all targets, each with the least severe
level that passes. For an event the most specific directive counts, and a
longer target is more specific.

A filter is spelled as directives with commas between them. A single bad
directive spoils the whole spelling. How directives are spelled is not up to
this library but to the one that writes the log. `Directive.parse?` and
`Filter.parse?` stand for its reader, as far as directives name a target and
a level. There they may also name a span and the fields of a span, in
brackets and braces behind the target. These are left out: brackets and
braces have no meaning of their own here.

Which filter is used is chosen from two spellings, one in the settings and
one in the environment. The environment refines the settings where both make
sense together, and neither can spoil the other: a spelling that makes no
sense counts as absent.

## Main definitions

* `Threshold`, `Directive`, `Filter`: The parts of a filter.
* `Filter.parse?`: The filter of a spelling.
* `Filter.display`: The spelling of a filter.
* `Filter.enables`: Whether an event is written.
* `Filter.chooseBy`, `Filter.choose`: The filter of the settings and the
  environment.

## Theorems

* `Filter.pieces_append`: Two spellings with a comma between them have the
  pieces of both.
-/

namespace JavaSource

namespace Log

/-- The least severe level that passes, if any does. -/
abbrev Threshold := Option Level

namespace Threshold

/-- The name of a threshold in directives. -/
def name : Threshold → String
  | none => "off"
  | some .error => "error"
  | some .warn => "warn"
  | some .info => "info"
  | some .debug => "debug"
  | some .trace => "trace"

/-- All thresholds, by increasing detail. -/
def all : List Threshold :=
  [none, some .error, some .warn, some .info, some .debug, some .trace]

/-- Whether events of a level pass. -/
def passes (t : Threshold) (l : Level) : Bool :=
  match t with
  | none => false
  | some least => l.rank ≤ least.rank

/-- A character in lower case, if it is an ASCII letter. -/
def lowerChar (c : Char) : Char :=
  if 'A' ≤ c ∧ c ≤ 'Z' then Char.ofNat (c.toNat + 32) else c

/-- A text with its ASCII letters in lower case. -/
def lower (s : String) : String :=
  String.ofList (s.toList.map lowerChar)

/-- The number that decimal digits spell, with an optional plus sign. -/
def number? (s : String) : Option Nat :=
  let digits :=
    match s.toList with
    | '+' :: cs => cs
    | cs => cs
  if digits.isEmpty || !digits.all (fun c => '0' ≤ c && c ≤ '9') then none
  else some (digits.foldl (fun n c => n * 10 + (c.toNat - '0'.toNat)) 0)

/-- The threshold that a name or a number stands for. -/
def ofName? (s : String) : Option Threshold :=
  match number? s with
  | some n => all[n]?
  | none => all.find? (fun t => t.name == lower s)

end Threshold

/-- A threshold for the events of a target, or for all events. -/
structure Directive where
  /-- The target; its events are those whose own target starts with it. -/
  target : Option String
  /-- The least severe level that passes. -/
  threshold : Threshold
deriving DecidableEq, Repr

namespace Directive

/-- The text of a directive. -/
def display (d : Directive) : String :=
  match d.target with
  | none => d.threshold.name
  | some t => t ++ "=" ++ d.threshold.name

/-- Whether a directive may start with the character. -/
def isStart (c : Char) : Bool :=
  Text.isLetter c || Text.isNumeral c || c == '-' || c == ':' || c == '_'

/-- The directive of a text. Without an equals sign the text is a threshold or
    else a target, all of whose events pass; so do all events of a target with
    nothing behind the sign. -/
def parse? (s : String) : Option Directive :=
  let cs := s.toList
  match cs.head? with
  | none => none
  | some c =>
    if !isStart c then none
    else if cs.contains '=' then
      let target := String.ofList (cs.takeWhile (· != '='))
      let rest := String.ofList ((cs.dropWhile (· != '=')).drop 1)
      if rest.isEmpty then some ⟨some target, some .trace⟩
      else (Threshold.ofName? rest).map (⟨some target, ·⟩)
    else
      match Threshold.ofName? s with
      | some t => some ⟨none, t⟩
      | none => some ⟨some s, some .trace⟩

/-- Whether a directive is more specific than another: one with a target comes
    before one without, a longer target before a shorter, and of two equally
    long ones the one later in the alphabet. -/
def precedes (d e : Directive) : Bool :=
  match d.target, e.target with
  | some _, none => true
  | none, _ => false
  | some s, some t =>
    t.utf8ByteSize < s.utf8ByteSize || (s.utf8ByteSize == t.utf8ByteSize && t < s)

/-- Whether the directive is about the events of a target. -/
def concerns (d : Directive) (target : String) : Bool :=
  match d.target with
  | none => true
  | some t => t.toList.isPrefixOf target.toList

end Directive

/-- Directives with different targets, the more specific first. -/
abbrev Filter := List Directive

namespace Filter

/-- Add a directive; it takes the place of one with the same target. -/
def insert (d : Directive) : Filter → Filter
  | [] => [d]
  | e :: rest =>
    if d.target = e.target then d :: rest
    else if d.precedes e then d :: e :: rest
    else e :: insert d rest

/-- The filter of directives, of which later ones win. -/
def ofDirectives (ds : List Directive) : Filter :=
  ds.foldl (fun f d => insert d f) []

/-- The pieces of a spelling: what stands between commas, if it is not
    empty. -/
def pieces (s : String) : List String :=
  ((s.toList.splitOn ',').filter (fun cs => !cs.isEmpty)).map String.ofList

/-- Two spellings with a comma between them have the pieces of both. -/
theorem pieces_append (s t : String) : pieces (s ++ "," ++ t) = pieces s ++ pieces t := by
  have h : (s ++ "," ++ t).toList = s.toList ++ ',' :: t.toList := by
    simp only [String.toList_append, List.append_assoc]
    rfl
  simp only [pieces, h, List.splitOn]
  rw [List.splitOnP_append_cons _ _ (by rfl), List.filter_append, List.map_append]

/-- The directives of a spelling, if all of them are good. -/
def directives? (s : String) : Option (List Directive) :=
  (pieces s).mapM Directive.parse?

/-- The filter of a spelling. -/
def parse? (s : String) : Option Filter :=
  (directives? s).map ofDirectives

/-- The spelling of a filter. -/
def display (f : Filter) : String :=
  ",".intercalate (f.map Directive.display)

/-- Whether an event is written. -/
def enables (f : Filter) (e : Event) : Bool :=
  match f.find? (fun d => d.concerns e.target) with
  | none => false
  | some d => d.threshold.passes e.level

/-- The filter that passes what is worth knowing, and nothing more detailed. -/
def info : Filter :=
  [⟨none, some .info⟩]

/-- The spelling that a level of the settings stands for. The names of levels
    are known in any case, and one has a longer form. -/
def normalise (level : String) : String :=
  let level := Text.trimmed level
  if level.isEmpty then "info"
  else
    match Threshold.lower level with
    | "trace" => "trace"
    | "debug" => "debug"
    | "info" => "info"
    | "warn" | "warning" => "warn"
    | "error" => "error"
    | _ => level

/-- The spelling in the environment, if it is not blank. -/
def environment? (environment : Option String) : Option String :=
  (environment.map Text.trimmed).filter (fun s => !s.isEmpty)

section Choice

/-! The choice asks of a spelling only whether it can be read. How it is read
is therefore a parameter, as is the filter that needs no spelling. -/

variable {φ : Type} (read? : String → Option φ) (plain : φ)

/-- The filter of the settings alone. -/
def ofLevelBy (level : String) : φ :=
  (read? (normalise level)).getD plain

/-- The filter of the settings and the environment. -/
def chooseBy (level : String) (environment : Option String) : φ :=
  match environment? environment with
  | none => ofLevelBy read? plain level
  | some e =>
    match read? (normalise level ++ "," ++ e) with
    | some f => f
    | none =>
      match read? e with
      | some f => f
      | none => ofLevelBy read? plain level

end Choice

/-- The filter of the settings and the environment, spelled as filters are. -/
def choose (level : String) (environment : Option String) : Filter :=
  chooseBy parse? info level environment

end Filter

end Log

end JavaSource
