/-!
# Scopes

Where a declared name can be seen. The scopes are ordered by how much they
hide, from `publicScope`, which hides nothing, to `localScope`, which is the
scope of a name inside one block.

## Main definitions

* `Scope`: The five scopes.
* `Scope.keyword`: The modifier that declares a scope, if it needs one.
* `Scope.display`: The name of a scope in messages.
-/

namespace JavaSource

/-- Where a declared name can be seen. -/
inductive Scope where
  | publicScope
  | protectedScope
  | packageScope
  | privateScope
  | localScope
deriving DecidableEq, Repr

namespace Scope

/-- The modifier that declares the scope. Package and local scope are what a
    declaration without a modifier has. -/
def keyword : Scope → Option String
  | publicScope => some "public"
  | protectedScope => some "protected"
  | privateScope => some "private"
  | packageScope | localScope => none

/-- The name of the scope in messages. -/
def display : Scope → String
  | publicScope => "public"
  | protectedScope => "protected"
  | packageScope => "package-private"
  | privateScope => "private"
  | localScope => "local"

/-- How much the scope hides. -/
def rank : Scope → Nat
  | publicScope => 0
  | protectedScope => 1
  | packageScope => 2
  | privateScope => 3
  | localScope => 4

instance : Ord Scope where
  compare a b := compare a.rank b.rank

end Scope

end JavaSource
