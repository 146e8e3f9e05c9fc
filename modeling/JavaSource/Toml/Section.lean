import JavaSource.Toml.Value

/-!
# Tables Under Construction

A document names its tables piecemeal: by a header, by the header of a table
inside them, or by the dots of a key. A table may be filled in one of these
ways only. How a table came into being is therefore kept until the document
is complete:

* a header or a pair of braces makes a table that is given whole: nothing but
  the lines under its own header adds to it;
* a table on the way to a header is implied: it may still get its own header;
* a table on the way to a dotted key is given by dotted keys and by nothing
  else.

What is written as a value is closed: neither headers nor dotted keys reach
into it.

A table stands among the entries of its parent where its header does, and
where it is first mentioned if it has none.

## Main definitions

* `Origin`: How a table came into being.
* `Item`: An entry of a table under construction.
* `Item.change`: Changing the table at the end of a path.
* `Item.insert`: Adding a value under a dotted key.
* `Item.openTable`, `Item.openElement`: What headers do.
* `Item.toValue`: A completed table.
-/

namespace JavaSource

namespace Toml

/-- How a table came into being. -/
inductive Origin where
  | given
  | implied
  | dotted
deriving DecidableEq, Repr

/-- An entry of a table under construction. -/
inductive Item where
  /-- A closed value. -/
  | value (v : Value)
  /-- A table. -/
  | table (origin : Origin) (entries : List (String × Item))
  /-- The tables that headers in double brackets have listed so far. -/
  | tables (elements : List Item)

namespace Item

/-- A table without entries, as a document starts. -/
def emptyTable : Item :=
  table .given []

/-- Put an item under a key: in place of the one that is there, or at the
    end. -/
def put (key : String) (item : Item) : List (String × Item) → List (String × Item)
  | [] => [(key, item)]
  | (k, i) :: rest => if k = key then (k, item) :: rest else (k, i) :: put key item rest

/-- Put an item under a key at the end, wherever the key stood before. -/
def putLast (key : String) (item : Item) (entries : List (String × Item)) :
    List (String × Item) :=
  entries.filter (fun entry => entry.1 != key) ++ [(key, item)]

/-- The item to go into on the way along a path; tables that are not there yet
    come into being. Dotted keys do not reach into tables given by others. -/
def stepInto (dotted : Bool) : Option Item → Option Item
  | none => some (table (if dotted then .dotted else .implied) [])
  | some (table origin entries) =>
    if dotted && origin == .given then none else some (table origin entries)
  | some (tables elements) => some (tables elements)
  | some (value _) => none

/-- Change the last of several tables. -/
def changeLast (f : Item → Option Item) : List Item → Option (List Item)
  | [] => none
  | [last] => do
    let last ← f last
    some [last]
  | first :: rest => do
    let rest ← changeLast f rest
    some (first :: rest)

/-- Change the table at the end of a path. Among listed tables the way goes
    through the last one. -/
def change (dotted : Bool) (f : Item → Option Item) : List String → Item → Option Item
  | [], item => f item
  | key :: path, table origin entries => do
    match ← stepInto dotted (entries.lookup key) with
    | tables elements => do
      let elements ← changeLast (change dotted f path) elements
      some (table origin (put key (tables elements) entries))
    | item => do
      let item ← change dotted f path item
      some (table origin (put key item entries))
  | _ :: _, _ => none

/-- Add a value under a new key. A key behind dots goes into a table that dots
    alone have given. -/
def insertKey (behindDots : Bool) (key : String) (v : Value) : Item → Option Item
  | table origin entries =>
    if (origin == .dotted) != behindDots then none
    else if (entries.lookup key).isSome then none
    else some (table origin (put key (value v) entries))
  | _ => none

/-- Add a value under a dotted key. -/
def insert (path : List String) (v : Value) (item : Item) : Option Item :=
  match path.reverse with
  | [] => none
  | key :: front =>
    change true (insertKey (!front.isEmpty) key v) front.reverse item

/-- Open the table of a header. A table that is implied gets its header now,
    and from now on stands where the header does. -/
def openTable (path : List String) (item : Item) : Option Item :=
  match path.reverse with
  | [] => none
  | key :: front =>
    change false (fun parent =>
      match parent with
      | table origin entries =>
        match entries.lookup key with
        | none => some (table origin (put key emptyTable entries))
        | some (table .implied inner) =>
          some (table origin (putLast key (table .given inner) entries))
        | some _ => none
      | _ => none) front.reverse item

/-- Open a further table of a header in double brackets. -/
def openElement (path : List String) (item : Item) : Option Item :=
  match path.reverse with
  | [] => none
  | key :: front =>
    change false (fun parent =>
      match parent with
      | table origin entries =>
        match entries.lookup key with
        | none => some (table origin (put key (tables [emptyTable]) entries))
        | some (tables elements) =>
          some (table origin (put key (tables (elements ++ [emptyTable])) entries))
        | some _ => none
      | _ => none) front.reverse item

mutual

/-- The value of a completed item. -/
def toValue : Item → Value
  | value v => v
  | table _ entries => .table (toEntries entries)
  | tables elements => .array (toValues elements)

/-- The entries of a completed table. -/
def toEntries : List (String × Item) → List (String × Value)
  | [] => []
  | (key, item) :: rest => (key, toValue item) :: toEntries rest

/-- The values of completed items. -/
def toValues : List Item → List Value
  | [] => []
  | item :: rest => toValue item :: toValues rest

end

/-- The entries of a completed item, if it is a table. -/
def toTable : Item → Table
  | table _ entries => toEntries entries
  | _ => []

end Item

end Toml

end JavaSource
