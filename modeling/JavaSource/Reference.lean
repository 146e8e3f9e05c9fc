/-!
# References to Classes

The name of a class as a source refers to it: its package, the types that
enclose it, its own name and its generic arguments. A reference can carry
the superclass of the class it names. That is knowledge about the class and
no part of its name, so two references that differ only there are the same
(`beq`), and are ordered alike (`order`).

A package, an enclosing type or a name may be the empty text. Names are put
together by `join`, which writes a dot only after a text that is not empty,
so the default package, which has the empty name, leaves no dot behind.

## Main definitions

* `Reference`: The name of a class.
* `Reference.fullName`: The qualified name, without generic arguments.
* `Reference.display`: The qualified name with its generic arguments.
* `Reference.beq`: Sameness of references.
* `Reference.order`: The order of references.
-/

namespace JavaSource

/-- The name of a class. -/
structure Reference where
  /-- The package of the class; the default package is the empty text. -/
  package : String
  /-- The types that enclose the class, the outermost first. -/
  enclosing : List String
  /-- The name of the class itself. -/
  name : String
  /-- The generic arguments. -/
  generics : List Reference
  /-- The superclass, where it is known from the class's own declaration. -/
  declaredSuper : Option Reference

namespace Reference

/-- The class of a package that no type encloses. -/
def topLevel (package name : String) : Reference :=
  ⟨package, [], name, [], none⟩

/-- A class of the package that every source sees. -/
def javaLang (name : String) : Reference :=
  topLevel "java.lang" name

instance : Inhabited Reference where
  default := topLevel "" ""

/-- Append a segment to a qualified name. -/
def join (front segment : String) : String :=
  (if front.isEmpty then front else front ++ ".") ++ segment

/-- The segments of the qualified name; the default package has none. -/
def segments (r : Reference) : List String :=
  (if r.package.isEmpty then [] else [r.package]) ++ r.enclosing ++ [r.name]

/-- The qualified name of the class, without generic arguments. -/
def fullName (r : Reference) : String :=
  r.segments.foldl join ""

/-- Whether the class is nested in another type. -/
def isNested (r : Reference) : Bool :=
  !r.enclosing.isEmpty

mutual

/-- The qualified name with its generic arguments in angle brackets. -/
def display : Reference → String
  | ⟨package, enclosing, name, generics, declaredSuper⟩ =>
    let fullName := fullName ⟨package, enclosing, name, generics, declaredSuper⟩
    match generics with
    | [] => fullName
    | g :: gs => fullName ++ "<" ++ ", ".intercalate (display g :: displays gs) ++ ">"

/-- The displays of several references. -/
def displays : List Reference → List String
  | [] => []
  | r :: rs => display r :: displays rs

end

mutual

/-- Whether two references name the same class with the same generic
    arguments, whatever is known about superclasses. -/
def beq : Reference → Reference → Bool
  | ⟨package, enclosing, name, generics, _⟩, ⟨package', enclosing', name', generics', _⟩ =>
    package == package' && enclosing == enclosing' && name == name' && beqAll generics generics'

/-- Whether two lists of references are the same, place by place. -/
def beqAll : List Reference → List Reference → Bool
  | [], [] => true
  | r :: rs, r' :: rs' => beq r r' && beqAll rs rs'
  | _, _ => false

end

instance : BEq Reference where
  beq := beq

mutual

/-- The order of references: by qualified name, then by what the qualified
    name hides, which is where its package ends and its generic arguments. -/
def order : Reference → Reference → Ordering
  | ⟨package, enclosing, name, generics, s⟩, ⟨package', enclosing', name', generics', s'⟩ =>
    (compare (fullName ⟨package, enclosing, name, generics, s⟩)
        (fullName ⟨package', enclosing', name', generics', s'⟩)).then
      ((compare package package').then
        ((compare enclosing enclosing').then
          (orderAll generics generics')))

/-- The lexicographic order of lists of references. -/
def orderAll : List Reference → List Reference → Ordering
  | [], [] => .eq
  | [], _ :: _ => .lt
  | _ :: _, [] => .gt
  | r :: rs, r' :: rs' => (order r r').then (orderAll rs rs')

end

instance : Ord Reference where
  compare := order

end Reference

end JavaSource
