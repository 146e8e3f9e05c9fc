import JavaSource.Reference

/-!
# The Class Hierarchy

A generator of sources asks two questions about a class it refers to: is it
an exception, and is it one that a method may throw without saying so? Both
are questions about the classes above it. The class that a reference carries
as its superclass is believed; where it carries none, a table of the
exception classes of the standard library answers.

A chain of superclasses is followed for at most `depthLimit` classes.

## Main definitions

* `wellKnownSuper`: The superclass of a class of the standard library.
* `Reference.superclass`: The superclass of a class, where it is known.
* `Reference.isSubclassOf`: Whether a class is below another.
* `Reference.isException`, `Reference.isUnchecked`: The two questions.
-/

namespace JavaSource

namespace Reference

/-- The superclasses of the exception classes of the standard library. -/
def wellKnownSupers : List (String × Reference) :=
  [("java.lang.Throwable", javaLang "Object"),
    ("java.lang.Exception", javaLang "Throwable"),
    ("java.lang.Error", javaLang "Throwable"),
    ("java.lang.RuntimeException", javaLang "Exception"),
    ("java.lang.ArithmeticException", javaLang "RuntimeException"),
    ("java.lang.ClassCastException", javaLang "RuntimeException"),
    ("java.lang.IllegalArgumentException", javaLang "RuntimeException"),
    ("java.lang.IllegalStateException", javaLang "RuntimeException"),
    ("java.lang.IndexOutOfBoundsException", javaLang "RuntimeException"),
    ("java.lang.NullPointerException", javaLang "RuntimeException"),
    ("java.lang.UnsupportedOperationException", javaLang "RuntimeException"),
    ("java.lang.NumberFormatException", javaLang "IllegalArgumentException"),
    ("java.lang.InterruptedException", javaLang "Exception"),
    ("java.lang.CloneNotSupportedException", javaLang "Exception"),
    ("java.lang.ReflectiveOperationException", javaLang "Exception"),
    ("java.lang.ClassNotFoundException", javaLang "ReflectiveOperationException"),
    ("java.lang.NoSuchMethodException", javaLang "ReflectiveOperationException"),
    ("java.io.IOException", javaLang "Exception"),
    ("java.io.FileNotFoundException", topLevel "java.io" "IOException"),
    ("java.io.EOFException", topLevel "java.io" "IOException"),
    ("java.io.UncheckedIOException", javaLang "RuntimeException"),
    ("java.util.NoSuchElementException", javaLang "RuntimeException"),
    ("java.util.ConcurrentModificationException", javaLang "RuntimeException"),
    ("java.util.concurrent.ExecutionException", javaLang "Exception"),
    ("java.util.concurrent.TimeoutException", javaLang "Exception"),
    ("java.util.concurrent.CancellationException", javaLang "IllegalStateException"),
    ("java.security.GeneralSecurityException", javaLang "Exception")]

/-- The superclass of a class of the standard library, by qualified name. -/
def wellKnownSuper (qualifiedName : String) : Option Reference :=
  wellKnownSupers.lookup qualifiedName

/-- The superclass of a class, where it is known. -/
def superclass (r : Reference) : Option Reference :=
  match r.declaredSuper with
  | some s => some s
  | none => wellKnownSuper r.fullName

/-- The number of classes looked at along a chain of superclasses. -/
def depthLimit : Nat := 64

/-- Whether one of the first `n` classes of the chain from a class upwards has
    the qualified name. -/
def meets (qualifiedName : String) : Nat → Reference → Bool
  | 0, _ => false
  | n + 1, r =>
    r.fullName == qualifiedName ||
      match r.superclass with
      | none => false
      | some s => meets qualifiedName n s

/-- Whether a class is the one with the qualified name, or below it. -/
def isSubclassOf (r : Reference) (qualifiedName : String) : Bool :=
  meets qualifiedName depthLimit r

/-- Whether a class is an exception. -/
def isException (r : Reference) : Bool :=
  r.isSubclassOf "java.lang.Exception"

/-- Whether a class is an exception that a method may throw without declaring
    it. -/
def isUnchecked (r : Reference) : Bool :=
  r.isSubclassOf "java.lang.RuntimeException"

end Reference

end JavaSource
