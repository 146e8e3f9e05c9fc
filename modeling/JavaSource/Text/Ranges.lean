/-!
# Ranges of Code Points

Classes of characters are unions of many short ranges of code points. A class
is kept as the ascending list of its ranges, so that a character below the
first unread range is settled without reading on; the letters and digits of
everyday text stand at the front of every table.

## Main definitions

* `Ranges`: Ascending, disjoint ranges, both ends included.
* `Ranges.contains`: Whether a character lies in one of the ranges.
-/

namespace JavaSource

namespace Text

/-- Code point ranges with both ends included, ascending and disjoint. -/
abbrev Ranges := List (Nat × Nat)

/-- Whether a code point lies in one of the ranges. -/
def Ranges.holds : Ranges → Nat → Bool
  | [], _ => false
  | (lo, hi) :: rest, n => decide (lo ≤ n) && (decide (n ≤ hi) || Ranges.holds rest n)

/-- Whether a character lies in one of the ranges. -/
def Ranges.contains (ranges : Ranges) (c : Char) : Bool :=
  ranges.holds c.toNat

end Text

end JavaSource
