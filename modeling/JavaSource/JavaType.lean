import JavaSource.NodeError
import JavaSource.Reference.Hierarchy

/-!
# Types

The type of a value: a primitive type, a class, an array of either, or the
type of no value at all. There are no arrays of arrays.

## Main definitions

* `TypeKind`: What a type is made of.
* `JavaType`: The types.
* `JavaType.ofKind`, `JavaType.ofException`: The checked ways to a type.
* `JavaType.display`: The text of a type.
* `JavaType.order`: The order of class types.
-/

namespace JavaSource

/-- What a type is made of. All classes are of one kind. -/
inductive TypeKind where
  | byte
  | short
  | int
  | long
  | float
  | double
  | boolean
  | char
  | object
  | void
deriving DecidableEq, Repr

/-- The types of the language that have values of their own without being
    classes. -/
inductive Primitive where
  | byte
  | short
  | int
  | long
  | float
  | double
  | boolean
  | char
deriving DecidableEq, Repr

namespace Primitive

/-- The kind of a primitive type. -/
def kind : Primitive → TypeKind
  | byte => .byte
  | short => .short
  | int => .int
  | long => .long
  | float => .float
  | double => .double
  | boolean => .boolean
  | char => .char

/-- The word of the language for a primitive type. -/
def keyword : Primitive → String
  | byte => "byte"
  | short => "short"
  | int => "int"
  | long => "long"
  | float => "float"
  | double => "double"
  | boolean => "boolean"
  | char => "char"

end Primitive

/-- The type of a value. -/
inductive JavaType where
  /-- The type of no value. -/
  | void
  /-- A primitive type, or an array of its values. -/
  | primitive (p : Primitive) (isArray : Bool)
  /-- A class, or an array of its objects. -/
  | reference (r : Reference) (isArray : Bool)

namespace JavaType

instance : Inhabited JavaType where
  default := void

/-- The type of conditions. -/
def boolean : JavaType :=
  primitive .boolean false

/-- The type of texts. -/
def string : JavaType :=
  reference (.javaLang "String") false

/-- What the type is made of. -/
def kind : JavaType → TypeKind
  | void => .void
  | primitive p _ => p.kind
  | reference _ _ => .object

/-- The word of the language for the type, array brackets apart. -/
def keyword : JavaType → Option String
  | void => some "void"
  | primitive p _ => some p.keyword
  | reference _ _ => none

/-- The class the type is made of. -/
def reference? : JavaType → Option Reference
  | reference r _ => some r
  | _ => none

/-- Whether the values of the type are arrays. -/
def isArray : JavaType → Bool
  | void => false
  | primitive _ isArray | reference _ isArray => isArray

/-- Whether the type is made of a class. -/
def isReference : JavaType → Bool
  | reference _ _ => true
  | _ => false

/-- Whether the type is made of no class. -/
def isPrimitive (t : JavaType) : Bool :=
  !t.isReference

/-- Whether the type is the type of no value. -/
def isVoid : JavaType → Bool
  | void => true
  | _ => false

/-- Whether the type is made of an exception class. -/
def isException : JavaType → Bool
  | reference r _ => r.isException
  | _ => false

/-- The text of a type. -/
def display : JavaType → String
  | void => "void"
  | primitive p isArray => p.keyword ++ (if isArray then "[]" else "")
  | reference r isArray => r.display ++ (if isArray then "[]" else "")

/-- Whether two types are the same, whatever is known about superclasses. -/
def beq : JavaType → JavaType → Bool
  | void, void => true
  | primitive p a, primitive p' a' => p == p' && a == a'
  | reference r a, reference r' a' => r == r' && a == a'
  | _, _ => false

instance : BEq JavaType where
  beq := beq

/-- The order of class types. A type that is not made of a class is on a par
    with every type. -/
def order : JavaType → JavaType → Ordering
  | reference r _, reference r' _ => compare r r'
  | _, _ => .eq

/-- The type of a kind, or of arrays of it. No class is known from its kind,
    and there are no arrays of no value. -/
def ofKind (kind : TypeKind) (isArray : Bool) : Build JavaType :=
  match kind with
  | .object => rejectFault .type .objectNotPrimitive
  | .void => if isArray then rejectFault .type .voidArray else pure void
  | .byte => pure (primitive .byte isArray)
  | .short => pure (primitive .short isArray)
  | .int => pure (primitive .int isArray)
  | .long => pure (primitive .long isArray)
  | .float => pure (primitive .float isArray)
  | .double => pure (primitive .double isArray)
  | .boolean => pure (primitive .boolean isArray)
  | .char => pure (primitive .char isArray)

/-- The type of an exception class. -/
def ofException (r : Reference) : Build JavaType :=
  if r.isException then pure (reference r false)
  else rejectFault .type (.notAnException r.fullName)

end JavaType

end JavaSource
