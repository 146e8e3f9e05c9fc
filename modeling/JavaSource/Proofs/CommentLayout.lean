import JavaSource.Proofs.Stanzas

/-!
# What a Comment Carries

A comment is read here as it stands in a source: as a text that has lines, with an
indentation and marks on each of them. That needs the indentation to have no newline.
A comment without a newline is the one-line layout and a comment with one is a block,
so the text itself tells the two apart.

Three things are shown of every text that can be commented. The comment carries the
words of the text, each once and in order, and shows which line of the text they come
from and where blank lines part them. It is one line if that fits, and a line of a block
is too wide only if it holds a single word that is. And it is stable: what a comment
says, formatted again, gives the same comment.

The last is more than that wrapped lines stay wrapped. A block of one line could fit on
one line, were it not for its text. It has no newline, because a text of several lines
is shown on several; so it is a block for its width, and its one line is as wide as
the text was.

## Main definitions

* `Layout.marked`: A line of a block with its indentation and mark.
* `Layout.IsBlock`: The comment is a block of given lines.
* `Layout.content`: What a comment says, without indentation and marks.

## Theorems

* `Layout.oneLine_eq`: The one-line layout, marks and words with single spaces.
* `Layout.isBlock_block`: The lines of a block.
* `format_carries_words`: Comments neither lose, move nor mix words.
* `format_within_width`: Which comments are one line, and which lines are too wide.
* `Layout.arrange_content`: What a comment says is laid out as the same comment.
* `format_content_unchanged`: Formatting what a comment says changes nothing.
-/

namespace JavaSource

namespace Comment

open Text

namespace Layout

variable {l : Layout}

/-! ### The two layouts -/

/-- A line of a block with its mark. The mark of an empty line has no space after it. -/
def marked (l : Layout) (line : List Char) : List Char :=
  l.margin ++ (if line.isEmpty then " *".toList else " * ".toList ++ line)

/-- The comment is a block of the given lines. -/
def IsBlock (l : Layout) (body : List (List Char)) (comment : List Char) : Prop :=
  lines comment =
    (l.margin ++ "/**".toList) :: (body.map l.marked ++ [l.margin ++ " */".toList])

theorem oneLine_eq (l : Layout) (text : List Char) :
    l.oneLine text = l.margin ++ spaced ("/**".toList :: (words text ++ ["*/".toList])) := by
  unfold oneLine
  cases words text with
  | nil => rfl
  | cons w ws =>
      have hclose : spaced (w :: ws ++ ["*/".toList]) = spaced (w :: ws) ++ " */".toList := by
        rw [spaced, intercalate_concat (List.cons_ne_nil w ws), List.append_assoc]
        rfl
      rw [spaced, List.cons_append, List.intercalate_cons_cons, ← List.cons_append, ← spaced, hclose]
      simp

theorem newline_not_mem_oneLine (hindent : '\n' ∉ l.margin) (text : List Char) :
    '\n' ∉ l.oneLine text := by
  rw [oneLine_eq, List.mem_append, not_or]
  refine ⟨hindent, newline_not_mem_spaced (fun w hw => ?_)⟩
  rw [List.mem_cons, List.mem_append, List.mem_singleton] at hw
  rcases hw with rfl | hw | rfl
  · decide
  · exact (isWord_of_mem_words hw).newline_not_mem
  · decide

theorem block_eq (l : Layout) (text : List Char) :
    l.block text = ['\n'].intercalate ((l.margin ++ "/**".toList) ::
      ((blockLines l.budget false false (lines text)).map l.marked ++
        [l.margin ++ " */".toList])) := by
  have hlines : ∀ body : List (List Char),
      (body.map l.blockLine).flatten = ((body.map l.marked).map (· ++ ['\n'])).flatten := by
    intro body
    rw [List.map_map]
    rfl
  rw [← List.cons_append, ← flatten_ended_append, block, hlines]
  simp

theorem newline_mem_block (l : Layout) (text : List Char) : '\n' ∈ l.block text := by
  simp [block]

theorem newline_not_mem_marked (hindent : '\n' ∉ l.margin) {line : List Char}
    (hline : '\n' ∉ line) : '\n' ∉ l.marked line := by
  rw [marked, List.mem_append, not_or]
  refine ⟨hindent, ?_⟩
  split
  · decide
  · rw [List.mem_append, not_or]
    exact ⟨by decide, hline⟩

theorem isBlock_block (hindent : '\n' ∉ l.margin) {text : List Char} {stanzas : List Stanza}
    (h : MadeOf l.budget text stanzas) :
    l.IsBlock (stanzas.flatMap Stanza.shown) (l.block text) := by
  rw [IsBlock, lines, block_eq, h.shown]
  refine List.splitOn_intercalate '\n' (fun line hline => ?_) (by simp)
  rw [List.mem_cons, List.mem_append, List.mem_map, List.mem_singleton] at hline
  rcases hline with rfl | ⟨content, hcontent, rfl⟩ | rfl
  · rw [List.mem_append, not_or]
    exact ⟨hindent, by decide⟩
  · rcases List.mem_flatMap.mp hcontent with ⟨s, _, hs⟩
    exact newline_not_mem_marked hindent (Stanza.newline_not_mem_shown hs)
  · rw [List.mem_append, not_or]
    exact ⟨hindent, by decide⟩

theorem format_eq_ok_arrange {l : Layout} {text : String} (h : Unclosed text.toList) :
    l.format text = .ok (String.ofList (l.arrange (trim text.toList))) := by
  rw [format, findTerminator_eq_none_iff.mpr h]

/-- A comment is one line if the text is, and fits; and else it is a block. -/
theorem fitsOneLine_iff {text : List Char} :
    l.fitsOneLine text = true ↔
      '\n' ∉ text ∧
        l.margin.length + (spaced ("/**".toList :: (words text ++ ["*/".toList]))).length ≤
          l.maxLineLength := by
  rw [fitsOneLine, oneLine_eq, List.length_append, Bool.and_eq_true, decide_eq_true_eq]
  simp

theorem arrange_eq_oneLine {text : List Char} (h : l.fitsOneLine text = true) :
    l.arrange text = l.oneLine text := by
  rw [arrange, if_pos h]

theorem arrange_eq_block {text : List Char} (h : l.fitsOneLine text = false) :
    l.arrange text = l.block text := by
  rw [arrange, h]
  rfl

theorem newline_mem_arrange_iff (hindent : '\n' ∉ l.margin) (text : List Char) :
    '\n' ∈ l.arrange text ↔ l.fitsOneLine text = false := by
  cases hfits : l.fitsOneLine text with
  | true => simpa [arrange_eq_oneLine hfits] using newline_not_mem_oneLine hindent text
  | false => simpa [arrange_eq_block hfits] using newline_mem_block l text

end Layout

/-! ### Words -/

/-- A text without an end mark has a comment. On one line, it is the words between the
    marks, with single spaces. As a block, it shows the text stanza by stanza: each line of
    the text that has words is shown by lines of its own, which have its words in order,
    with one empty line before them exactly if blank lines stand before it. No empty line
    comes first or last. -/
theorem format_carries_words {l : Layout} (hindent : '\n' ∉ l.indent.toList) {text : String}
    (hopen : ¬ "*/".toList <:+: text.toList) :
    ∃ comment, l.format text = .ok comment ∧
      ('\n' ∉ comment.toList →
        comment.toList =
          l.margin ++ spaced ("/**".toList :: (words text.toList ++ ["*/".toList]))) ∧
      ('\n' ∈ comment.toList → ∃ stanzas : List Stanza,
        l.IsBlock (stanzas.flatMap Stanza.shown) comment.toList ∧
        (words text.toList ≠ [] →
          lines (trim text.toList) = stanzas.flatMap Stanza.written) ∧
        (stanzas.flatMap Stanza.shown).flatMap words = words text.toList ∧
        (stanzas.flatMap Stanza.shown).head? ≠ some [] ∧
        (stanzas.flatMap Stanza.shown).getLast? ≠ some []) := by
  refine ⟨_, Layout.format_eq_ok_arrange (unclosed_iff.mpr hopen), ?_⟩
  rw [String.toList_ofList, Layout.newline_mem_arrange_iff hindent, ← words_trim]
  have htight := tight_trim text.toList
  generalize trim text.toList = shorn at htight
  refine ⟨fun hline => ?_, fun hblock => ?_⟩
  · rw [Bool.not_eq_false] at hline
    rw [Layout.arrange_eq_oneLine hline, Layout.oneLine_eq]
  · rw [Layout.arrange_eq_block hblock]
    rcases exists_madeOf l.budget htight with ⟨stanzas, hmade⟩
    refine ⟨stanzas, Layout.isBlock_block hindent hmade, ?_, hmade.flatMap_words, ?_, ?_⟩
    · intro hwords
      refine hmade.written ?_
      rintro rfl
      exact hwords rfl
    · intro hempty
      exact (hmade.tight_first [] hempty).1 rfl
    · intro hempty
      exact (Stanza.tight_last stanzas [] hempty).1 rfl

/-- A layout that leaves nine characters for words. -/
def Layout.narrow : Layout :=
  ⟨14, "  "⟩

/-- A text with blanks of several sorts, a word that is too wide, and words that look like
    marks. -/
def mixedText : String :=
  "  one  two\tthree \r\n \n\n unbreakable-word * four\n/** five\n"

/-- Its comment. -/
def mixedComment : String :=
  "  /**\n   * one two\n   * three\n   *\n   * unbreakable-word\n   * * four\n   * /** five\n   */"

theorem format_mixedText :
    '\n' ∉ Layout.narrow.indent.toList ∧ ¬ "*/".toList <:+: mixedText.toList ∧
    Layout.narrow.format mixedText = .ok mixedComment := by
  decide +kernel

theorem format_carries_mixed :
    '\n' ∉ Layout.narrow.indent.toList ∧ ¬ "*/".toList <:+: mixedText.toList ∧
    Layout.narrow.format mixedText = .ok mixedComment ∧
    ∃ stanzas : List Stanza,
      Layout.narrow.IsBlock (stanzas.flatMap Stanza.shown) mixedComment.toList ∧
      lines (trim mixedText.toList) = stanzas.flatMap Stanza.written ∧
      (stanzas.flatMap Stanza.shown).flatMap words = words mixedText.toList := by
  rcases format_mixedText with ⟨hindent, hopen, hformat⟩
  rcases format_carries_words hindent hopen with ⟨comment, hcomment, _, hblock⟩
  rw [hformat, Except.ok.injEq] at hcomment
  rw [← hcomment] at hblock
  rcases hblock (by decide +kernel) with ⟨stanzas, hbody, hwritten, hwords, _⟩
  exact ⟨hindent, hopen, hformat, stanzas, hbody, hwritten (by decide +kernel), hwords⟩

/-! ### Widths -/

namespace Layout

variable {l : Layout}

theorem length_marked {line : List Char} (h : line ≠ []) :
    (l.marked line).length = l.margin.length + 3 + line.length := by
  have hmark : " * ".toList.length = 3 := rfl
  rw [marked, if_neg (by simpa using h), List.length_append, List.length_append, hmark]
  omega

/-- Where the indentation leaves no room, the budget is zero and nothing is within it. -/
theorem length_marked_le {line : List Char} (h : line ≠ []) (hbudget : line.length ≤ l.budget) :
    (l.marked line).length ≤ l.maxLineLength := by
  have hpos := List.length_pos_iff.mpr h
  rw [budget] at hbudget
  rw [length_marked h]
  omega

end Layout

theorem eq_singleton_of_length_lt_two {line : List Char} (hspaced : spaced (words line) = line)
    (hwords : words line ≠ []) (h : (words line).length < 2) : words line = [line] := by
  rcases hline : words line with _ | ⟨w, _ | ⟨w', ws⟩⟩
  · exact absurd hline hwords
  · rw [hline] at hspaced
    rw [← hspaced]
    simp [spaced]
  · rw [hline, List.length_cons, List.length_cons] at h
    omega

/-- The comment of a text is one line exactly if the text is, but for blanks at its ends,
    and its words fit between the marks. A line of a block that has several words is
    within the width, so a line that is not has a single word, which is too wide by
    itself. -/
theorem format_within_width {l : Layout} (hindent : '\n' ∉ l.indent.toList) {text : String}
    (hopen : ¬ "*/".toList <:+: text.toList) :
    ∃ comment, l.format text = .ok comment ∧
      ('\n' ∉ comment.toList ↔
        '\n' ∉ trim text.toList ∧
          l.margin.length + (spaced ("/**".toList :: (words text.toList ++ ["*/".toList]))).length
            ≤ l.maxLineLength) ∧
      ('\n' ∈ comment.toList → ∃ body, l.IsBlock body comment.toList ∧
        ∀ line ∈ body, line ≠ [] →
          (2 ≤ (words line).length → (l.marked line).length ≤ l.maxLineLength) ∧
          (l.maxLineLength < (l.marked line).length → words line = [line])) := by
  refine ⟨_, Layout.format_eq_ok_arrange (unclosed_iff.mpr hopen), ?_⟩
  rw [String.toList_ofList, Layout.newline_mem_arrange_iff hindent, Bool.not_eq_false,
    Layout.fitsOneLine_iff, words_trim]
  refine ⟨Iff.rfl, fun hblock => ?_⟩
  rw [Layout.arrange_eq_block hblock]
  rcases exists_madeOf l.budget (tight_trim text.toList) with ⟨stanzas, hmade⟩
  refine ⟨_, Layout.isBlock_block hindent hmade, fun line hline hne => ?_⟩
  rcases List.mem_flatMap.mp hline with ⟨s, hs, hshown⟩
  have hcontent : line ∈ s.contents := (Stanza.mem_shown hshown).resolve_left hne
  rcases s.contents_words line hcontent with ⟨hwords, hspaced⟩
  have hwide : 2 ≤ (words line).length → (l.marked line).length ≤ l.maxLineLength := by
    intro htwo
    have hfits := (hmade.within s hs line hcontent).length_le htwo
    rw [hspaced] at hfits
    exact Layout.length_marked_le hne hfits
  refine ⟨hwide, fun hover => eq_singleton_of_length_lt_two hspaced hwords ?_⟩
  by_contra htwo
  have hle := hwide (by omega)
  omega

theorem format_within_narrow :
    '\n' ∉ Layout.narrow.indent.toList ∧ ¬ "*/".toList <:+: mixedText.toList ∧
    Layout.narrow.format mixedText = .ok mixedComment ∧
    ¬ ('\n' ∉ trim mixedText.toList ∧
      Layout.narrow.margin.length +
        (spaced ("/**".toList :: (words mixedText.toList ++ ["*/".toList]))).length
          ≤ Layout.narrow.maxLineLength) ∧
    ∃ body, Layout.narrow.IsBlock body mixedComment.toList ∧
      ∀ line ∈ body, line ≠ [] →
        (2 ≤ (words line).length →
          (Layout.narrow.marked line).length ≤ Layout.narrow.maxLineLength) ∧
        (Layout.narrow.maxLineLength < (Layout.narrow.marked line).length →
          words line = [line]) := by
  rcases format_mixedText with ⟨hindent, hopen, hformat⟩
  have hnewline : '\n' ∈ mixedComment.toList := by decide +kernel
  rcases format_within_width hindent hopen with ⟨comment, hcomment, honeLine, hblock⟩
  rw [hformat, Except.ok.injEq] at hcomment
  rw [← hcomment] at honeLine hblock
  exact ⟨hindent, hopen, hformat, fun h => honeLine.mpr h hnewline, hblock hnewline⟩

/-! ### Comments read back -/

namespace Layout

variable {l : Layout}

/-- What a comment says: its lines without indentation and marks. -/
def content (l : Layout) (comment : List Char) : List Char :=
  if '\n' ∈ comment then
    ['\n'].intercalate
      ((lines comment).tail.dropLast.map (fun line => line.drop (l.margin.length + 3)))
  else
    (comment.drop (l.margin.length + 4)).rdrop 3

theorem content_oneLine (hindent : '\n' ∉ l.margin) (text : List Char) :
    l.content (l.oneLine text) = spaced (words text) := by
  rw [content, if_neg (newline_not_mem_oneLine hindent text), oneLine]
  cases words text with
  | nil =>
    simp [List.rdrop, spaced]
  | cons w ws =>
    simp [List.rdrop]

theorem drop_marked (line : List Char) :
    (l.marked line).drop (l.margin.length + 3) = line := by
  rw [marked, List.drop_append]
  cases line with
  | nil => simp
  | cons c line => simp

theorem content_of_isBlock {body : List (List Char)} {comment : List Char}
    (h : l.IsBlock body comment) (hnewline : '\n' ∈ comment) :
    l.content comment = ['\n'].intercalate body := by
  have hbody : (body.map l.marked).map (fun line => line.drop (l.margin.length + 3)) = body := by
    rw [List.map_map]
    conv_rhs => rw [← List.map_id body]
    exact List.map_congr_left (fun line _ => drop_marked line)
  rw [IsBlock] at h
  rw [content, if_pos hnewline, h, List.tail_cons, List.dropLast_concat, hbody]

/-- What a comment on one line says is laid out on one line. -/
theorem arrange_spaced {text : List Char} (h : l.fitsOneLine text = true) :
    l.arrange (spaced (words text)) = l.oneLine text := by
  have hwords : words (spaced (words text)) = words text :=
    words_spaced (fun _ hw => isWord_of_mem_words hw)
  have hnewline : '\n' ∉ spaced (words text) :=
    newline_not_mem_spaced (fun _ hw => (isWord_of_mem_words hw).newline_not_mem)
  have hfits : l.fitsOneLine (spaced (words text)) = true := by
    rw [fitsOneLine_iff, hwords]
    exact ⟨hnewline, (fitsOneLine_iff.mp h).2⟩
  rw [arrange_eq_oneLine hfits, oneLine_eq, oneLine_eq, hwords]

/-- What a block says is laid out as the same block. It is not a matter of the lines
    alone: a block of one line must not become a comment on one line. -/
theorem arrange_join {text : List Char} {stanzas : List Stanza} (h : l.fitsOneLine text = false)
    (hmade : MadeOf l.budget text stanzas) :
    l.arrange (['\n'].intercalate (stanzas.flatMap Stanza.shown)) = l.block text := by
  have hfits : l.fitsOneLine (['\n'].intercalate (stanzas.flatMap Stanza.shown)) = false := by
    rw [← Bool.not_eq_true, fitsOneLine_iff, hmade.words_join]
    rintro ⟨hnewline, hwidth⟩
    have htext : l.fitsOneLine text = true :=
      fitsOneLine_iff.mpr ⟨hmade.newline_not_mem_of_join hnewline, hwidth⟩
    rw [h] at htext
    cases htext
  rw [arrange_eq_block hfits, block_eq, block_eq, hmade.blockLines_join, hmade.shown]

/-- What the comment of a text says has the same comment, and can be commented if the text
    can. -/
theorem arrange_content (hindent : '\n' ∉ l.margin) {text : List Char} (htight : Tight text)
    (hopen : Unclosed text) :
    Unclosed (l.content (l.arrange text)) ∧ Tight (l.content (l.arrange text)) ∧
      l.arrange (l.content (l.arrange text)) = l.arrange text := by
  have hwords : ∀ w ∈ words text, IsWord w := fun _ hw => isWord_of_mem_words hw
  cases hfits : l.fitsOneLine text with
  | true =>
      rw [arrange_eq_oneLine hfits, content_oneLine hindent]
      refine ⟨unclosed_spaced (fun w hw => ?_), tight_spaced hwords, arrange_spaced hfits⟩
      exact hopen.of_isInfix (isInfix_of_mem_words hw)
  | false =>
      rcases exists_madeOf l.budget htight with ⟨stanzas, hmade⟩
      rw [arrange_eq_block hfits,
        content_of_isBlock (isBlock_block hindent hmade) (newline_mem_block l text)]
      refine ⟨?_, hmade.tight_join, arrange_join hfits hmade⟩
      rw [← hmade.shown]
      refine unclosed_intercalate (by decide) (by decide) (unclosed_of_mem_blockLines ?_)
      exact fun line hline => hopen.of_isInfix (isInfix_of_mem_lines hline)

end Layout

/-- What the comment of a text says can be formatted, and gives the same comment. -/
theorem format_content_unchanged {l : Layout} (hindent : '\n' ∉ l.indent.toList) {text : String}
    (hopen : ¬ "*/".toList <:+: text.toList) :
    ∃ comment, l.format text = .ok comment ∧
      l.format (String.ofList (l.content comment.toList)) = .ok comment := by
  have hunclosed : Unclosed text.toList := unclosed_iff.mpr hopen
  refine ⟨_, Layout.format_eq_ok_arrange hunclosed, ?_⟩
  rcases Layout.arrange_content hindent (tight_trim text.toList)
    (hunclosed.of_isInfix (trim_isInfix text.toList)) with ⟨hagain, htight, harrange⟩
  rw [String.toList_ofList, Layout.format_eq_ok_arrange (by rwa [String.toList_ofList]),
    String.toList_ofList, htight.trim_eq, harrange]

theorem format_content_mixed :
    '\n' ∉ Layout.narrow.indent.toList ∧ ¬ "*/".toList <:+: mixedText.toList ∧
    Layout.narrow.format mixedText = .ok mixedComment ∧
    Layout.narrow.format (String.ofList (Layout.narrow.content mixedComment.toList)) =
      .ok mixedComment := by
  rcases format_mixedText with ⟨hindent, hopen, hformat⟩
  rcases format_content_unchanged hindent hopen with ⟨comment, hcomment, hagain⟩
  rw [hformat, Except.ok.injEq] at hcomment
  rw [← hcomment] at hagain
  exact ⟨hindent, hopen, hformat, hagain⟩

end Comment

end JavaSource
