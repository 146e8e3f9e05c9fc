import JavaSource.Toml.Text
import JavaSource.Toml.Value

/-!
# TOML Numbers, Dates and Times

Digits may be grouped by single underscores between them. A whole number has
no leading zeros unless a base is named, and must fit into 64 bits with a
sign; a number with a point or an exponent is a floating point number, and
must not be too large for one.

What starts with four digits and a dash is a date, and what starts with two
digits and a colon is a time of day: no number looks like that.

## Main definitions

* `digits`: Grouped digits.
* `number`: A number.
* `moment`: A date, a time or both.
* `numeric`: Any of these.
-/

namespace JavaSource

namespace Toml

/-- Whether a character is a decimal digit. -/
def isDigit (c : Char) : Bool :=
  '0' ≤ c && c ≤ '9'

/-- The value of a digit in a base of at most sixteen. -/
def digitIn? (base : Nat) (c : Char) : Option Nat :=
  (hexDigit? c).filter (· < base)

/-- Read further digits, each with an optional underscore before it. -/
def moreDigits (base : Nat) : Reader (List Nat)
  | '_' :: c :: cs => do
    let d ← digitIn? base c
    let (ds, cs) ← moreDigits base cs
    some (d :: ds, cs)
  | ['_'] => none
  | c :: cs =>
    match digitIn? base c with
    | some d => (moreDigits base cs).map (fun (ds, cs) => (d :: ds, cs))
    | none => some ([], c :: cs)
  | [] => some ([], [])

/-- Read grouped digits, at least one. -/
def digits (base : Nat) : Reader (List Nat)
  | c :: cs => do
    let d ← digitIn? base c
    let (ds, cs) ← moreDigits base cs
    some (d :: ds, cs)
  | [] => none

/-- The number that digits spell in a base. -/
def ofDigits (base : Nat) (ds : List Nat) : Nat :=
  ds.foldl (fun n d => n * base + d) 0

/-- Read decimal digits without a leading zero. -/
def wholeDigits : Reader (List Nat)
  | '0' :: cs => some ([0], cs)
  | cs => digits 10 cs

/-- Read an optional sign; true is minus. -/
def sign : List Char → Bool × List Char
  | '-' :: cs => (true, cs)
  | '+' :: cs => (false, cs)
  | cs => (false, cs)

/-- The first whole number that is too large. -/
def integerBound : Nat := 0x8000000000000000

/-- A whole number, if it fits. -/
def integer? (negative : Bool) (n : Nat) : Option Value :=
  if negative then
    if n ≤ integerBound then some (.integer (-(n : Int))) else none
  else
    if n < integerBound then some (.integer n) else none

/-- The floating point number nearest to a decimal one. A decimal number whose
    order of magnitude is out of the range of floating point numbers is not
    written out. -/
def nearestFloat (mantissa : List Nat) (exponent : Int) : Float :=
  let significant := mantissa.dropWhile (· == 0)
  let magnitude := (significant.length : Int) + exponent
  if significant.isEmpty || magnitude < -400 then 0.0
  else if 400 < magnitude then 1.0 / 0.0
  else Float.ofScientific (ofDigits 10 significant) (exponent < 0) exponent.natAbs

/-- A floating point number, if it is not too large. -/
def float? (negative : Bool) (mantissa : List Nat) (exponent : Int) : Option Value :=
  let f := nearestFloat mantissa exponent
  if negative then some (.float (-f))
  else if f.isInf then none
  else some (.float f)

/-- Read the exponent of a floating point number, if there is one. -/
def exponent? (cs : List Char) : Option (Option Int × List Char) :=
  match cs with
  | 'e' :: cs | 'E' :: cs => do
    let (negative, cs) := sign cs
    let (ds, cs) ← digits 10 cs
    let n := ofDigits 10 ds
    some (some (if negative then -(n : Int) else n), cs)
  | cs => some (none, cs)

/-- Read the digits after a point, if there is one. -/
def fraction? (cs : List Char) : Option (Option (List Nat) × List Char) :=
  match cs with
  | '.' :: cs => do
    let (ds, cs) ← digits 10 cs
    some (some ds, cs)
  | cs => some (none, cs)

/-- Read a decimal number after its sign. -/
def decimal (negative : Bool) : Reader Value := fun cs => do
  let (whole, cs) ← wholeDigits cs
  let (fraction, cs) ← fraction? cs
  let (exponent, cs) ← exponent? cs
  match fraction, exponent with
  | none, none => (integer? negative (ofDigits 10 whole)).map (·, cs)
  | _, _ =>
    let fraction := fraction.getD []
    let value := float? negative (whole ++ fraction) (exponent.getD 0 - fraction.length)
    value.map (·, cs)

/-- Read a whole number in a named base, after the name. -/
def inBase (base : Nat) : Reader Value := fun cs => do
  let (ds, cs) ← digits base cs
  (integer? false (ofDigits base ds)).map (·, cs)

/-- Read a number. -/
def number : Reader Value
  | '0' :: 'x' :: cs => inBase 16 cs
  | '0' :: 'o' :: cs => inBase 8 cs
  | '0' :: 'b' :: cs => inBase 2 cs
  | cs =>
    let (negative, cs) := sign cs
    match cs with
    | 'i' :: 'n' :: 'f' :: cs => some (.float (if negative then -1.0 / 0.0 else 1.0 / 0.0), cs)
    | 'n' :: 'a' :: 'n' :: cs => some (.float (0.0 / 0.0), cs)
    | cs => decimal negative cs

/-- Read exactly so many decimal digits. -/
def fixedDigits : Nat → Reader (List Nat)
  | 0, cs => some ([], cs)
  | n + 1, c :: cs => do
    let d ← digitIn? 10 c
    let (ds, cs) ← fixedDigits n cs
    some (d :: ds, cs)
  | _ + 1, [] => none

/-- Read a number of two digits between two bounds. -/
def twoDigits (least greatest : Nat) : Reader Nat := fun cs => do
  let (ds, cs) ← fixedDigits 2 cs
  let n := ofDigits 10 ds
  if least ≤ n ∧ n ≤ greatest then some (n, cs) else none

/-- The number of days of a month. -/
def daysInMonth (year month : Nat) : Nat :=
  if month = 2 then
    if year % 4 = 0 ∧ (year % 100 ≠ 0 ∨ year % 400 = 0) then 29 else 28
  else if month = 4 ∨ month = 6 ∨ month = 9 ∨ month = 11 then 30
  else 31

/-- The text after a date at its front. -/
def skipDate (cs : List Char) : Option (List Char) := do
  let (year, cs) ← fixedDigits 4 cs
  let cs ← expect ['-'] cs
  let (month, cs) ← twoDigits 1 12 cs
  let cs ← expect ['-'] cs
  let (_, cs) ← twoDigits 1 (daysInMonth (ofDigits 10 year) month) cs
  some cs

/-- The text after the fraction of a second at its front, if there is one. -/
def skipSecondFraction (cs : List Char) : Option (List Char) :=
  match cs with
  | '.' :: c :: cs => if isDigit c then some (cs.dropWhile isDigit) else none
  | ['.'] => none
  | cs => some cs

/-- The text after a time of day at its front. A minute can have a leap
    second. -/
def skipTime (cs : List Char) : Option (List Char) := do
  let (_, cs) ← twoDigits 0 23 cs
  let cs ← expect [':'] cs
  let (_, cs) ← twoDigits 0 59 cs
  let cs ← expect [':'] cs
  let (_, cs) ← twoDigits 0 60 cs
  skipSecondFraction cs

/-- The text after a distance from universal time at its front, if there is
    one. -/
def skipOffset (cs : List Char) : Option (List Char) :=
  match cs with
  | 'Z' :: cs | 'z' :: cs => some cs
  | '+' :: cs | '-' :: cs => do
    let (_, cs) ← twoDigits 0 23 cs
    let cs ← expect [':'] cs
    let (_, cs) ← twoDigits 0 59 cs
    some cs
  | cs => some cs

/-- Whether a text starts like a date. -/
def looksLikeDate (cs : List Char) : Bool :=
  (cs.take 4).all isDigit && cs[4]? == some '-'

/-- Whether a text starts like a time of day. -/
def looksLikeTime (cs : List Char) : Bool :=
  (cs.take 2).all isDigit && cs[2]? == some ':'

/-- The text after the time of day that belongs to a date, if there is one. A
    blank belongs to the moment only if a time follows it. -/
def skipTimeOfDate (cs : List Char) : Option (List Char) :=
  match cs with
  | 'T' :: cs | 't' :: cs => do
    let cs ← skipTime cs
    skipOffset cs
  | ' ' :: cs =>
    if looksLikeTime cs then do
      let cs ← skipTime cs
      skipOffset cs
    else
      some (' ' :: cs)
  | cs => some cs

/-- Read a date, a time of day or both. -/
def moment : Reader Value := fun cs => do
  let rest ←
    if looksLikeTime cs then skipTime cs
    else do
      let rest ← skipDate cs
      skipTimeOfDate rest
  some (.moment (String.ofList (cs.take (cs.length - rest.length))), rest)

/-- Read a number, a date or a time. -/
def numeric : Reader Value := fun cs =>
  if looksLikeDate cs || looksLikeTime cs then moment cs else number cs

end Toml

end JavaSource
