import JavaSource.Proofs.Wrapping

/-!
# The Number of Lines

A paragraph is put on as few lines as it can be.

Lines are filled greedily, so it has to be shown that taking a word as long as there is
room for it is never regretted. What there is to compare with is any way to cut the words
into groups that fit (`Split`), where a group of one word fits however long the word is.

The comparison goes along the words, and what decides is how full the line is at which
the greedy filling and the other split have arrived. Two things are true of that width.
A line with more room on it never costs a line, and a line without room costs one line
at most, since a new line can be started anywhere (`length_fill_between`). So where the
other split starts a line and filling goes on with the old one, the other split has used
a line more by then, and a line is all that the fuller line can cost later.

`fill` gives the lines all at once, as lists of words. Written onto a page, the words
come one by one, and each goes to the open line or starts another behind the lines that
stand already (`Page.put`). The two agree (`lines_foldl_put`), so the lines that stand
are left alone, and a block is written paragraph by paragraph onto one page
(`blockLines_eq_foldl`).

## Main definitions

* `Split`: A way to cut words into groups that fit.

## Theorems

* `length_fill_between`: What a fuller line costs is one line at most.
* `length_fill_le`: Filling up a line takes no more further lines than any other way.
* `length_wrap_le`: Wrapping takes no more lines than there are groups in a split.
* `lines_foldl_put`: Adding word by word is filling.
* `Layout.writeParagraph_eq`: A paragraph adds its wrapped lines.
* `Layout.blockLines_eq_foldl`: The lines of a block are added paragraph by paragraph.
* `Layout.blockLines_concat`: A further paragraph is added to the lines of a block.
* `Layout.writeParagraph_takes_fewest_lines`: A paragraph adds lines that are not empty,
  and no split of its words has fewer groups.
-/

namespace JavaSource

namespace Comment

open Text

/-! ### Any split against the greedy one -/

/-- Words are cut into consecutive groups, and all of them fit. -/
structure Split (budget : Nat) (ws : List (List Char)) (groups : List (List (List Char))) :
    Prop where
  flatten_eq : groups.flatten = ws
  fits : ∀ group ∈ groups, Fits budget group

theorem split_wrap (budget : Nat) (ws : List (List Char)) : Split budget ws (wrap budget ws) :=
  ⟨flatten_wrap budget ws, fun _ h => fits_of_mem_wrap h⟩

/-- The same words take no more further lines behind a shorter line, and behind a longer
    one they take one more at most. -/
theorem length_fill_between {budget u v : Nat} (h : u ≤ v) (ws : List (List Char)) :
    (fill budget u ws).2.length ≤ (fill budget v ws).2.length ∧
      (fill budget v ws).2.length ≤ (fill budget u ws).2.length + 1 := by
  induction ws generalizing u v with
  | nil => exact ⟨Nat.le_refl _, Nat.le_succ _⟩
  | cons w ws ih =>
      by_cases hv : v + 1 + w.length ≤ budget
      · -- There is room on both lines, and the longer one stays the longer one.
        have hu : u + 1 + w.length ≤ budget := by omega
        simp only [fill, if_pos hu, if_pos hv]
        exact ih (by omega)
      · by_cases hu : u + 1 + w.length ≤ budget
        · -- The longer line is left for a new one, which is now the shorter of the two.
          have hnew := ih (u := w.length) (v := u + 1 + w.length) (by omega)
          simp only [fill, if_pos hu, if_neg hv, List.length_cons]
          omega
        · simp only [fill, if_neg hu, if_neg hv]
          exact ⟨Nat.le_refl _, Nat.le_succ _⟩

/-- Another way to go on behind a line may put some words on it and the others in groups
    that fit. Filling the line takes no more further lines than there are groups. -/
theorem length_fill_le {budget width : Nat} {ws line : List (List Char)}
    {groups : List (List (List Char))} (hwords : line ++ groups.flatten = ws)
    (hline : line = [] ∨ width + trail line ≤ budget) (hgroups : ∀ g ∈ groups, Fits budget g) :
    (fill budget width ws).2.length ≤ groups.length := by
  -- By induction on the words, with the width of the line and the other way left open.
  induction ws generalizing width line groups with
  | nil => exact Nat.zero_le _
  | cons w ws ih =>
      cases line with
      | cons w' line =>
          -- The other way puts the word on the line, so there is room for it.
          rw [List.cons_append, List.cons.injEq] at hwords
          rcases hwords with ⟨rfl, hwords⟩
          have hwidth : width + trail (w' :: line) ≤ budget :=
            hline.resolve_left (List.cons_ne_nil w' line)
          rw [trail] at hwidth
          have hroom : width + 1 + w'.length ≤ budget := by omega
          simp only [fill, if_pos hroom]
          exact ih hwords (Or.inr (by omega)) hgroups
      | nil =>
          cases groups with
          | nil => cases hwords
          | cons group groups =>
              rw [List.forall_mem_cons] at hgroups
              rcases hgroups with ⟨hgroup, hgroups⟩
              cases group with
              | nil => exact absurd rfl hgroup.ne_nil
              | cons w' rest =>
                  -- The other way starts a line with the word. If filling goes on with the
                  -- old line, that line is longer, and it costs one line more at most.
                  rw [List.nil_append, List.flatten_cons, List.cons_append,
                    List.cons.injEq] at hwords
                  rcases hwords with ⟨rfl, hwords⟩
                  have hnew := ih hwords hgroup.within hgroups
                  by_cases hroom : width + 1 + w'.length ≤ budget
                  · have hold : (fill budget (width + 1 + w'.length) ws).2.length ≤
                        (fill budget w'.length ws).2.length + 1 :=
                      (length_fill_between (by omega) ws).2
                    simp only [fill, if_pos hroom, List.length_cons]
                    omega
                  · simp only [fill, if_neg hroom, List.length_cons]
                    omega

/-- Behind a line without room, all words go on further lines. -/
theorem fill_full (budget : Nat) (ws : List (List Char)) :
    fill budget budget ws = ([], wrap budget ws) := by
  cases ws with
  | nil => rfl
  | cons w ws =>
      have hfull : ¬ budget + 1 + w.length ≤ budget := by omega
      simp only [fill, if_neg hfull, wrap]

/-- No split of the words has fewer groups than there are wrapped lines. -/
theorem length_wrap_le {budget : Nat} {ws : List (List Char)} {groups : List (List (List Char))}
    (h : Split budget ws groups) : (wrap budget ws).length ≤ groups.length := by
  have hwords : [] ++ groups.flatten = ws := h.flatten_eq
  have hfill : (fill budget budget ws).2.length ≤ groups.length :=
    length_fill_le hwords (Or.inl rfl) h.fits
  rw [fill_full] at hfill
  exact hfill

/-! ### Word by word -/

theorem spaced_cons (w : List Char) (ws : List (List Char)) :
    spaced (w :: ws) = w ++ ws.flatMap (' ' :: ·) := by
  induction ws generalizing w with
  | nil => simp [spaced]
  | cons w' ws ih =>
      rw [spaced, List.intercalate_cons_cons, ← spaced, ih w', List.flatMap_cons]
      simp only [List.append_assoc, List.cons_append, List.nil_append]

/-- Adding words one by one leaves the lines that stand, fills up the open line, and
    adds the further lines. -/
theorem lines_foldl_put {budget : Nat} {ws : List (List Char)} (hws : ∀ w ∈ ws, w ≠ [])
    (out : List (List Char)) {line : List Char} (hline : line ≠ []) :
    (ws.foldl (Page.put budget) ⟨out, line⟩).done =
      out ++ (line ++ (fill budget line.length ws).1.flatMap (' ' :: ·)) ::
        (fill budget line.length ws).2.map spaced := by
  induction ws generalizing out line with
  | nil => simp [Page.done, fill, hline]
  | cons w ws ih =>
      rw [List.forall_mem_cons] at hws
      rcases hws with ⟨hw, hws⟩
      have hopen : ¬ line.isEmpty = true := by simpa using hline
      by_cases hroom : line.length + 1 + w.length ≤ budget
      · -- The word goes on the line, which the filling carries as its width.
        have hlonger : (line ++ ' ' :: w).length = line.length + 1 + w.length := by
          simp only [List.length_append, List.length_cons]
          omega
        have hput : Page.put budget ⟨out, line⟩ w = ⟨out, line ++ ' ' :: w⟩ := by
          simp only [Page.put, if_neg hopen, if_pos hroom]
        rw [List.foldl_cons, hput, ih hws out (by simp), hlonger]
        simp only [fill, if_pos hroom, List.flatMap_cons, List.append_assoc, List.cons_append]
      · -- The line is done, and it is one of those that stand from now on.
        have hput : Page.put budget ⟨out, line⟩ w = ⟨out ++ [line], w⟩ := by
          simp only [Page.put, if_neg hopen, if_neg hroom]
        rw [List.foldl_cons, hput, ih hws (out ++ [line]) hw]
        simp only [fill, if_neg hroom, List.flatMap_nil, List.append_nil, List.map_cons,
          spaced_cons, List.append_assoc, List.singleton_append]

namespace Layout

/-- A paragraph adds its wrapped lines. -/
theorem writeParagraph_eq (l : Layout) (out : List (List Char)) (paragraph : List Char) :
    l.writeParagraph out paragraph = out ++ (wrap l.budget (words paragraph)).map spaced := by
  have hwords : ∀ w ∈ words paragraph, w ≠ [] := fun w hw => (isWord_of_mem_words hw).1
  rw [writeParagraph]
  cases hparagraph : words paragraph with
  | nil => simp [Page.done, wrap]
  | cons w ws =>
      rw [hparagraph, List.forall_mem_cons] at hwords
      -- The first word opens a line, whatever its length.
      have hput : Page.put l.budget ⟨out, []⟩ w = ⟨out, w⟩ := rfl
      rw [List.foldl_cons, hput, lines_foldl_put hwords.2 out hwords.1]
      simp only [wrap, List.map_cons, spaced_cons]

/-- The lines of a block are added to those that stand, paragraph by paragraph. -/
theorem foldl_addParagraph (l : Layout) (paragraphs out : List (List Char)) (parted : Bool) :
    (paragraphs.foldl l.addParagraph (out, parted)).1 =
      out ++ blockLines l.budget (!out.isEmpty) parted paragraphs := by
  induction paragraphs generalizing out parted with
  | nil => simp [blockLines]
  | cons paragraph rest ih =>
      rw [List.foldl_cons, blockLines]
      cases hwords : words paragraph with
      | nil =>
          have hadd : l.addParagraph (out, parted) paragraph = (out, !out.isEmpty) := by
            simp [addParagraph, hwords]
          rw [hadd, ih]
      | cons w ws =>
          have hlines : wrap l.budget (w :: ws) ≠ [] := wrap_ne_nil (List.cons_ne_nil w ws)
          have hadd : l.addParagraph (out, parted) paragraph =
              (out ++ ((if parted then [[]] else []) ++ (wrap l.budget (w :: ws)).map spaced),
                false) := by
            cases parted with
            | false => simp [addParagraph, writeParagraph_eq, hwords]
            | true => simp [addParagraph, writeParagraph_eq, hwords]
          -- Words were added, so that a line stands for the paragraphs that follow.
          have hstands : (!(out ++ ((if parted then [[]] else []) ++
              (wrap l.budget (w :: ws)).map spaced)).isEmpty) = true := by
            rw [Bool.not_eq_true', List.isEmpty_eq_false_iff]
            simp [hlines]
          rw [hadd, ih, hstands]
          simp only [List.append_assoc]

/-- The lines of a block are written onto an empty page, paragraph by paragraph. -/
theorem blockLines_eq_foldl (l : Layout) (paragraphs : List (List Char)) :
    blockLines l.budget false false paragraphs =
      (paragraphs.foldl l.addParagraph ([], false)).1 := by
  rw [foldl_addParagraph]
  rfl

/-- A further paragraph is written behind the lines of a block, with a blank line between
    at most. -/
theorem blockLines_concat (l : Layout) (paragraphs : List (List Char)) (paragraph : List Char) :
    ∃ blank, (blank = [] ∨ blank = [[]]) ∧
      blockLines l.budget false false (paragraphs ++ [paragraph]) =
        l.writeParagraph (blockLines l.budget false false paragraphs ++ blank) paragraph := by
  rw [blockLines_eq_foldl, blockLines_eq_foldl, List.foldl_append]
  rcases paragraphs.foldl l.addParagraph ([], false) with ⟨out, parted⟩
  rw [List.foldl_cons, List.foldl_nil, addParagraph]
  by_cases hwords : words paragraph = []
  · -- Without words nothing is written, and a blank line is due only later.
    refine ⟨[], Or.inl rfl, ?_⟩
    simp [hwords, writeParagraph_eq, wrap]
  · rw [if_neg (by simpa using hwords)]
    cases parted with
    | false => exact ⟨[], Or.inl rfl, by simp⟩
    | true => exact ⟨[[]], Or.inr rfl, rfl⟩

theorem budget_eq (l : Layout) : l.budget = l.maxLineLength - l.indent.length - 3 := by
  rw [budget, margin, String.length_toList]
  omega

theorem spaced_ne_nil_of_mem_wrap {budget : Nat} {paragraph : List Char}
    {group : List (List Char)} (h : group ∈ wrap budget (words paragraph)) :
    spaced group ≠ [] := by
  cases group with
  | nil => exact absurd rfl (fits_of_mem_wrap h).ne_nil
  | cons w ws =>
      have hw : w ≠ [] := (isWord_of_mem_words (mem_words_of_mem_wrap h List.mem_cons_self)).1
      rw [spaced_cons]
      exact List.append_ne_nil_of_left_ne_nil hw _

/-- A paragraph leaves the lines that stand as they are and adds its wrapped lines, which
    are not empty and have its words in groups that fit. No other way to cut the words
    into groups that fit has fewer groups. This is how any paragraph of a block is
    written, behind the lines of those before it and a blank line if one is due. -/
theorem writeParagraph_takes_fewest_lines (l : Layout) (out : List (List Char))
    (paragraph : List Char) :
    let budget := l.maxLineLength - l.indent.length - 3
    let added := (wrap l.budget (words paragraph)).map spaced
    l.writeParagraph out paragraph = out ++ added ∧
    (∀ line ∈ added, line ≠ []) ∧
    Split budget (words paragraph) (wrap l.budget (words paragraph)) ∧
    (∀ groups, Split budget (words paragraph) groups → added.length ≤ groups.length) ∧
    ∀ paragraphs, ∃ blank, (blank = [] ∨ blank = [[]]) ∧
      blockLines l.budget false false (paragraphs ++ [paragraph]) =
        l.writeParagraph (blockLines l.budget false false paragraphs ++ blank) paragraph := by
  intro budget added
  have hbudget : budget = l.budget := l.budget_eq.symm
  rw [hbudget]
  refine ⟨writeParagraph_eq l out paragraph, fun line hline => ?_, split_wrap _ _,
    fun groups hgroups => ?_, fun paragraphs => blockLines_concat l paragraphs paragraph⟩
  · rcases List.mem_map.mp hline with ⟨group, hgroup, rfl⟩
    exact spaced_ne_nil_of_mem_wrap hgroup
  · rw [List.length_map]
    exact length_wrap_le hgroups

/-- Seven characters are left for words. The long word stands alone, and to cut the words
    behind it elsewhere than filling does is possible but saves no line. -/
theorem writeParagraph_takes_fewest_lines_around_long_word :
    Split 7 (words "an enormous word or two".toList)
        [["an".toList], ["enormous".toList], ["word".toList], ["or".toList, "two".toList]] ∧
      ((⟨12, "  "⟩ : Layout).writeParagraph ["see".toList]
        "an enormous word or two".toList).length ≤ 1 + 4 := by
  have hsplit : Split 7 (words "an enormous word or two".toList)
      [["an".toList], ["enormous".toList], ["word".toList], ["or".toList, "two".toList]] := by
    refine ⟨by decide, ?_⟩
    simp only [List.forall_mem_cons, List.not_mem_nil, false_imp_iff, implies_true, and_true]
    exact ⟨fits_cons (Or.inl rfl), fits_cons (Or.inl rfl), fits_cons (Or.inl rfl),
      fits_cons (Or.inr (by decide))⟩
  rcases writeParagraph_takes_fewest_lines ⟨12, "  "⟩ ["see".toList]
    "an enormous word or two".toList with ⟨hadded, _, _, hfewest, _⟩
  refine ⟨hsplit, ?_⟩
  rw [hadded, List.length_append]
  exact Nat.add_le_add_left (hfewest _ hsplit) 1

end Layout

end Comment

end JavaSource
