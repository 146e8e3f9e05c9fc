/-!
# TOML Values

The values of a TOML document. A table keeps its entries in the order in
which the document defines them, because a reader of settings complains about
the first entry it cannot use.

## Main definitions

* `Toml.Value`: The values.
* `Toml.Table`: Keys with their values, in order of definition.
-/

namespace JavaSource

namespace Toml

/-- A value of a TOML document. -/
inductive Value where
  | string (s : String)
  | integer (i : Int)
  | float (f : Float)
  | boolean (b : Bool)
  /-- A date, a time or both, as written. -/
  | moment (text : String)
  | array (elements : List Value)
  | table (entries : List (String × Value))

/-- Keys with their values, in order of definition. -/
abbrev Table := List (String × Value)

end Toml

end JavaSource
