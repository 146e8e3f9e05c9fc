import JavaSource.Proofs.ImportRuns
import JavaSource.Proofs.Words

/-!
# The Text of the Imports

The text of the imports is meant for a compiler, so it must say which names were
collected and nothing else. This module reads the names back from it.

Both kinds of imports start with the same word, and either kind may be absent together
with the blank line after it, so the text does not fall apart at fixed places. What
keeps it readable is that names are spelled without blanks. A line then tells its kind:
what follows the word of a plain import is a name and a semicolon, and `static` with a
space after it is not the beginning of such a thing. So the names of each kind are
found by looking at every line by itself (`readNames`), wherever the blocks begin and
end, and reading undoes writing (`readNames_write`). Two texts that are equal are read
alike.

That the text is made of lines does not depend on the spelling (`toList_write`). Only
where a name has a newline in it are there more lines to be seen than were written.

## Main definitions

* `Imports.isNameChar`, `Imports.Spelled`: What qualified names are spelled with.
* `Imports.keyword`, `Imports.importLine`: The line that imports a name.
* `Imports.writtenLines`: The lines of the text of the imports.
* `Imports.readNames`: The names of one kind that a text imports.

## Theorems

* `Imports.toList_write`: The text of the imports is made of its lines.
* `Imports.write_eq_empty_iff`: The text is empty if nothing was collected.
* `Imports.importedName?_importLine`: A line is read as the import that it is.
* `Imports.readNames_write`: The names can be read from the text.
* `Imports.write_determines_names`: The lines of the text, and that equal texts import
  the same names.
-/

namespace JavaSource

namespace Imports

open Text (lines lines_ended)

/-! ### Lines -/

/-- What a line starts with that imports a name of a kind. -/
def keyword (nested : Bool) : String :=
  if nested then "import static " else "import "

/-- The line that imports a name of a kind. -/
def importLine (nested : Bool) (name : String) : List Char :=
  (keyword nested).toList ++ name.toList ++ [';']

/-- The lines that import the names of a kind, and a blank one if there are any. -/
def importLines (nested : Bool) (names : List String) : List (List Char) :=
  names.map (importLine nested) ++ if names = [] then [] else [[]]

/-- The lines of the text of the imports. -/
def writtenLines (i : Imports) : List (List Char) :=
  importLines true i.statics ++ importLines false i.plains

theorem toList_block (nested : Bool) (names : List String) :
    (block (keyword nested) names).toList =
      ((importLines nested names).map (· ++ ['\n'])).flatten := by
  unfold block importLines
  by_cases hnone : names = []
  · simp [hnone]
  · have hline : ∀ name, (keyword nested ++ name ++ ";\n").toList =
        importLine nested name ++ ['\n'] := by
      intro name
      simp [importLine]
    rw [if_neg (by simpa using hnone), if_neg hnone]
    simp [List.flatten_append, List.flatMap_def, Function.comp_def, hline]

/-- The text of the imports is made of its lines, whatever the names. -/
theorem toList_write (i : Imports) :
    i.write.toList = (i.writtenLines.map (· ++ ['\n'])).flatten := by
  have hstatics := toList_block true i.statics
  have hplains := toList_block false i.plains
  rw [write, String.toList_append, writtenLines, List.map_append, List.flatten_append,
    ← hstatics, ← hplains]
  rfl

theorem importLines_eq_nil_iff {nested : Bool} {names : List String} :
    importLines nested names = [] ↔ names = [] := by
  unfold importLines
  by_cases hnone : names = []
  · simp [hnone]
  · simp [hnone]

/-- The text is empty exactly if nothing was collected. -/
theorem write_eq_empty_iff {i : Imports} : i.write = "" ↔ i.statics = [] ∧ i.plains = [] := by
  have hlines : (i.writtenLines.map (· ++ ['\n'])).flatten = [] ↔ i.writtenLines = [] := by
    rw [List.flatten_eq_nil_iff]
    constructor
    · intro hempty
      rcases hwritten : i.writtenLines with _ | ⟨line, more⟩
      · rfl
      · -- A line is ended by a newline, and so leaves something in the text.
        have hline := hempty (line ++ ['\n']) (by simp [hwritten])
        simp at hline
    · intro hnone
      simp [hnone]
  rw [← String.toList_eq_nil_iff, toList_write, hlines, writtenLines, List.append_eq_nil_iff,
    importLines_eq_nil_iff, importLines_eq_nil_iff]

/-! ### Spelling -/

/-- Whether qualified names are spelled with the character: those of identifiers, and
    dots between them. -/
def isNameChar (c : Char) : Bool :=
  Identifier.isPart c || c == '.'

/-- The name is spelled as qualified names are. -/
def Spelled (name : String) : Prop :=
  ∀ c ∈ name.toList, isNameChar c = true

instance (name : String) : Decidable (Spelled name) :=
  decidable_of_iff (name.toList.all isNameChar = true) List.all_eq_true

theorem Spelled.not_mem {name : String} {c : Char} (h : Spelled name)
    (hc : isNameChar c = false) : c ∉ name.toList := by
  intro hmem
  have hpart := h c hmem
  rw [hc] at hpart
  cases hpart

theorem newline_not_mem_importLine {nested : Bool} {name : String} (h : '\n' ∉ name.toList) :
    '\n' ∉ importLine nested name := by
  have hkeyword : '\n' ∉ (keyword nested).toList := by
    cases nested <;> decide
  simp [importLine, hkeyword, h]

/-- The lines written are the lines of the text, if there is no newline in a name. -/
theorem lines_write {i : Imports} (h : ∀ a ∈ i.statics ++ i.plains, '\n' ∉ a.toList) :
    lines i.write.toList = i.writtenLines ++ [[]] := by
  rw [List.forall_mem_append] at h
  have hblock : ∀ nested names, (∀ a ∈ names, '\n' ∉ a.toList) →
      ∀ line ∈ importLines nested names, '\n' ∉ line := by
    intro nested names hnames line hline
    rcases List.mem_append.mp hline with hline | hline
    · rcases List.mem_map.mp hline with ⟨a, ha, rfl⟩
      exact newline_not_mem_importLine (hnames a ha)
    · split at hline
      · exact absurd hline List.not_mem_nil
      · rw [List.mem_singleton.mp hline]
        exact List.not_mem_nil
  rw [toList_write]
  refine lines_ended (fun line hline => ?_)
  rcases List.mem_append.mp hline with hline | hline
  · exact hblock true i.statics h.1 line hline
  · exact hblock false i.plains h.2 line hline

/-! ### Reading -/

/-- The name that a line imports, if it is an import of the kind. -/
def importedName? (nested : Bool) (line : List Char) : Option String := do
  let rest ← line.dropPrefix? (keyword nested).toList
  if rest.getLast? = some ';' ∧ rest.dropLast.all isNameChar then
    some (String.ofList rest.dropLast)
  else
    none

/-- The names of a kind that a text imports, line by line. -/
def readNames (nested : Bool) (text : List Char) : List String :=
  (lines text).filterMap (importedName? nested)

theorem importedName?_keyword_append (nested : Bool) (rest : List Char) :
    importedName? nested ((keyword nested).toList ++ rest ++ [';']) =
      if rest.all isNameChar then some (String.ofList rest) else none := by
  have hdrop : ((keyword nested).toList ++ rest ++ [';']).dropPrefix? (keyword nested).toList =
      some (rest ++ [';']) := by
    rw [List.dropPrefix?_eq_some_iff]
    exact ⟨(keyword nested).toList, by simp, by simp⟩
  rw [importedName?, hdrop]
  simp

/-- A blank line imports nothing. -/
theorem importedName?_nil (nested : Bool) : importedName? nested [] = none := by
  cases nested <;> rfl

/-- A plain import does not start as a static one does: the space behind `static` would
    have to be in its name. -/
theorem dropPrefix?_importLine_plain {name : String} (h : Spelled name) :
    (importLine false name).dropPrefix? (keyword true).toList = none := by
  rw [Option.eq_none_iff_forall_ne_some]
  intro rest hrest
  rcases List.dropPrefix?_eq_some_iff.mp hrest with ⟨front, hline, hfront⟩
  have hkeyword : front = "import ".toList ++ "static ".toList := by
    simpa [keyword] using hfront
  have hname : name.toList ++ [';'] = "static ".toList ++ rest := by
    rw [hkeyword, importLine, List.append_assoc, List.append_assoc] at hline
    exact List.append_cancel_left hline
  have hspace : ' ' ∈ name.toList ++ [';'] := by
    rw [hname]
    simp
  simp [h.not_mem (c := ' ') (by decide)] at hspace

/-- A line that imports a name is read as an import of that name, and not as one of the
    other kind. -/
theorem importedName?_importLine {nested nested' : Bool} {name : String} (h : Spelled name) :
    importedName? nested (importLine nested' name) =
      if nested = nested' then some name else none := by
  have hsame : ∀ kind, importedName? kind (importLine kind name) = some name := by
    intro kind
    rw [importLine, importedName?_keyword_append, if_pos (List.all_eq_true.mpr h),
      String.ofList_toList]
  cases nested with
  | true =>
      cases nested' with
      | true => exact hsame true
      | false =>
          rw [importedName?, dropPrefix?_importLine_plain h]
          rfl
  | false =>
      cases nested' with
      | true =>
          -- Behind the shorter beginning there is a space, which is no part of a name.
          have hline : importLine true name =
              (keyword false).toList ++ ("static ".toList ++ name.toList) ++ [';'] := by
            simp [importLine, keyword]
          have hspace : isNameChar ' ' = false := by decide
          rw [hline, importedName?_keyword_append, if_neg (by simp [hspace])]
          rfl
      | false => exact hsame false

theorem filterMap_importLines {nested nested' : Bool} {names : List String}
    (h : ∀ a ∈ names, Spelled a) :
    (importLines nested' names).filterMap (importedName? nested) =
      if nested = nested' then names else [] := by
  have hblank : (if names = [] then [] else [[]] : List (List Char)).filterMap
      (importedName? nested) = [] := by
    split
    · rfl
    · rw [List.filterMap_cons, importedName?_nil]
      rfl
  have hread : ∀ a ∈ names, (importedName? nested ∘ importLine nested') a =
      if nested = nested' then some a else none := by
    intro a ha
    exact importedName?_importLine (h a ha)
  rw [importLines, List.filterMap_append, hblank, List.append_nil, List.filterMap_map,
    List.filterMap_congr hread]
  by_cases hkind : nested = nested'
  · simp [hkind]
  · simp [hkind]

/-- The names of both kinds can be read from the text of the imports. -/
theorem readNames_write {i : Imports} (h : ∀ a ∈ i.statics ++ i.plains, Spelled a)
    (nested : Bool) : readNames nested i.write.toList = i.names nested := by
  have hlines := lines_write (fun a ha => (h a ha).not_mem (c := '\n') (by decide))
  rw [List.forall_mem_append] at h
  rw [readNames, hlines, writtenLines, List.filterMap_append, List.filterMap_append,
    filterMap_importLines h.1, filterMap_importLines h.2, List.filterMap_cons,
    importedName?_nil]
  cases nested with
  | true => simp [names]
  | false => simp [names]

/-- In every state that uses of the names lead to, the text of the imports is made of
    lines: the static imports in strictly ascending order of their names, a blank line if
    there are any, the plain imports in strictly ascending order, and a blank line if
    there are any. These are the lines of the text as it is read, as long as no name has
    a newline in it. The text is empty exactly if no name was collected. Two such states,
    for the same package or for different ones, whose names are spelled with letters,
    numerals, underscores, dollar signs and dots have the same text exactly if they have
    the same names of both kinds. -/
theorem write_determines_names (package package' : String)
    (implicitPackages implicitPackages' : List String) (xs ys : List Step) :
    let i := (empty package implicitPackages).run xs
    let j := (empty package' implicitPackages').run ys
    i.statics.Pairwise (· < ·) ∧ i.plains.Pairwise (· < ·) ∧
    i.write.toList = (i.writtenLines.map (· ++ ['\n'])).flatten ∧
    ((∀ a ∈ i.statics ++ i.plains, '\n' ∉ a.toList) →
      lines i.write.toList = i.writtenLines ++ [[]]) ∧
    (i.write = "" ↔ i.statics = [] ∧ i.plains = []) ∧
    ((∀ a ∈ i.statics ++ i.plains, Spelled a) → (∀ a ∈ j.statics ++ j.plains, Spelled a) →
      (i.write = j.write ↔ i.statics = j.statics ∧ i.plains = j.plains)) := by
  intro i j
  have hreflects := reflects_run_empty package implicitPackages xs
  refine ⟨hreflects.ascending true, hreflects.ascending false, toList_write i, lines_write,
    write_eq_empty_iff, ?_⟩
  intro hi hj
  constructor
  · intro hwrite
    -- Both kinds of names are read from the one text.
    have hnames : ∀ nested, i.names nested = j.names nested := by
      intro nested
      rw [← readNames_write hi, ← readNames_write hj, hwrite]
    exact ⟨hnames true, hnames false⟩
  · rintro ⟨hstatics, hplains⟩
    rw [write, write, hstatics, hplains]

/-- The text for one package after a visit that was forgotten is the text for another
    package after two visits in the other order: there is a static import of one name and
    a plain one, and the names agree because the texts do. -/
theorem write_determines_entry_and_list :
    let entry := Outline.ofReference ⟨"java.util", ["Map"], "Entry", [], none⟩
    let list := Outline.ofReference (.topLevel "java.util" "List")
    let i := (empty "org.shelf" ["java.lang"]).run
      [.visit (Outline.ofReference (.topLevel "java.io" "File")), .clear, .visit list, .visit entry]
    let j := (empty "org.book" []).run [.visit entry, .visit list]
    (∀ a ∈ i.statics ++ i.plains, Spelled a) ∧ (∀ a ∈ j.statics ++ j.plains, Spelled a) ∧
      lines i.write.toList = i.writtenLines ++ [[]] ∧ i.write = j.write ∧
      i.statics = j.statics ∧ i.plains = j.plains := by
  intro entry list i j
  have hi : ∀ a ∈ i.statics ++ i.plains, Spelled a := by decide +kernel
  have hj : ∀ a ∈ j.statics ++ j.plains, Spelled a := by decide +kernel
  have hnewline : ∀ a ∈ i.statics ++ i.plains, '\n' ∉ a.toList := by decide +kernel
  have hwrite : i.write = j.write := by decide +kernel
  rcases write_determines_names "org.shelf" "org.book" ["java.lang"] []
    [.visit (Outline.ofReference (.topLevel "java.io" "File")), .clear, .visit list, .visit entry]
    [.visit entry, .visit list] with ⟨_, _, _, hlines, _, hnames⟩
  exact ⟨hi, hj, hlines hnewline, hwrite, (hnames hi hj).mp hwrite⟩

end Imports

end JavaSource
