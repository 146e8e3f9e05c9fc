import JavaSource.Proofs.Wrapping

/-!
# The Lines of a Block, Stanza by Stanza

The loop over the lines of a text carries two flags, whether anything has been written
and whether a blank line is due, so what it writes at a line depends on all the lines
before. A `Stanza` undoes that. It takes a line of the text that has words, together
with the blank lines right before it, and sets beside it the lines of the block that
show it. The text is one stanza after the other as they are written, and the block is
the same stanzas as they are shown (`MadeOf`). How many blank lines there are can no
longer be seen in the block, but whether there are any can.

A stanza says what belongs to what without saying how the line is wrapped. What it has
to satisfy is part of it: the blank lines are blank, the line is shown by at least one
line, and these carry its words, single-spaced and in order.

That a text is made of stanzas needs its ends not to be blank. Blank lines before the
first line would belong to a stanza and yet not be shown, and blank lines after the
last would belong to none.

The lines of a block, joined, are a text again, made of stanzas of one line each. It
has the same block: its lines fit, so they are not wrapped any further, and there is
one blank line wherever there were any.

## Main definitions

* `Stanza`: A line of a text, the blank lines before it, and how it is shown.
* `Stanza.written`, `Stanza.shown`: The lines of the text and of the block.
* `Stanza.Within`: The lines of the block fit.
* `MadeOf`: A text and its block are made of the same stanzas.

## Theorems

* `exists_stanzas_after`: What the loop does after the first line.
* `exists_madeOf`: A text without blank ends is made of stanzas.
* `MadeOf.flatMap_words`: The block has the words of the text.
* `MadeOf.tight_first`, `Stanza.tight_last`: No blank line stands first or last.
* `MadeOf.newline_not_mem_of_length_le_one`: Several lines are shown on several lines.
* `MadeOf.blockLines_join`: The block of a block is the same block.
-/

namespace JavaSource

namespace Comment

open Text

/-! ### Stanzas -/

/-- A line of a text that has words, the blank lines right before it, and the lines by
    which a block shows it. -/
structure Stanza where
  /-- The blank lines before the line. -/
  gap : List (List Char)
  /-- The line. -/
  source : List Char
  /-- The lines that show it. -/
  contents : List (List Char)
  gap_blank : ∀ line ∈ gap, words line = []
  contents_ne_nil : contents ≠ []
  contents_words : ∀ line ∈ contents, words line ≠ [] ∧ spaced (words line) = line
  flatMap_contents : contents.flatMap words = words source

namespace Stanza

/-- The lines of a text that belong to the stanza. -/
def written (s : Stanza) : List (List Char) :=
  s.gap ++ [s.source]

/-- The lines of a block that belong to the stanza. One empty line stands for all blank
    lines. -/
def shown (s : Stanza) : List (List Char) :=
  (if s.gap.isEmpty then [] else [[]]) ++ s.contents

/-- The lines that show the stanza are not wrapped any further. -/
def Within (budget : Nat) (s : Stanza) : Prop :=
  ∀ line ∈ s.contents, Fits budget (words line)

/-- The stanza of a line that is wrapped. -/
def wrapped (budget : Nat) {gap : List (List Char)} (hgap : ∀ line ∈ gap, words line = [])
    {source : List Char} (hsource : words source ≠ []) : Stanza where
  gap := gap
  source := source
  contents := (wrap budget (words source)).map spaced
  gap_blank := hgap
  contents_ne_nil := by
    rw [Ne, List.map_eq_nil_iff]
    exact wrap_ne_nil hsource
  contents_words := by
    intro line hline
    rcases List.mem_map.mp hline with ⟨ws, hws, rfl⟩
    rw [words_spaced_of_mem_wrap hws]
    exact ⟨(fits_of_mem_wrap hws).ne_nil, rfl⟩
  flatMap_contents := by
    have hread : (wrap budget (words source)).flatMap (fun ws => words (spaced ws)) =
        (wrap budget (words source)).flatMap id :=
      List.flatMap_congr (fun ws hws => words_spaced_of_mem_wrap hws)
    rw [List.flatMap_map, hread, List.flatMap_id, flatten_wrap]

theorem within_wrapped (budget : Nat) {gap : List (List Char)}
    (hgap : ∀ line ∈ gap, words line = []) {source : List Char} (hsource : words source ≠ []) :
    (wrapped budget hgap hsource).Within budget := by
  intro line hline
  rcases List.mem_map.mp hline with ⟨ws, hws, rfl⟩
  rw [words_spaced_of_mem_wrap hws]
  exact fits_of_mem_wrap hws

theorem shown_of_gap_eq_nil {s : Stanza} (h : s.gap = []) : s.shown = s.contents := by
  rw [shown, h]
  rfl

theorem mem_shown {s : Stanza} {line : List Char} (h : line ∈ s.shown) :
    line = [] ∨ line ∈ s.contents := by
  rw [shown, List.mem_append] at h
  rcases h with h | h
  · split at h
    · exact absurd h List.not_mem_nil
    · exact Or.inl (List.mem_singleton.mp h)
  · exact Or.inr h

theorem flatMap_written (s : Stanza) : s.written.flatMap words = words s.source := by
  have hgap : s.gap.flatMap words = [] := List.flatMap_eq_nil_iff.mpr s.gap_blank
  rw [written, List.flatMap_append, hgap, List.nil_append, List.flatMap_singleton]

theorem flatMap_shown (s : Stanza) : s.shown.flatMap words = words s.source := by
  have hparted : (if s.gap.isEmpty then [] else [[]]).flatMap words = [] := by
    split
    · rfl
    · rfl
  rw [shown, List.flatMap_append, hparted, List.nil_append, s.flatMap_contents]

/-- The lines that show a stanza are not empty and have no blank ends. -/
theorem tight_contents {s : Stanza} {line : List Char} (h : line ∈ s.contents) :
    line ≠ [] ∧ Tight line := by
  rcases s.contents_words line h with ⟨hwords, hspaced⟩
  refine ⟨?_, ?_⟩
  · rintro rfl
    exact hwords rfl
  · rw [← hspaced]
    exact tight_spaced (fun _ hw => isWord_of_mem_words hw)

theorem length_shown_pos (s : Stanza) : 0 < s.shown.length := by
  have hpos := List.length_pos_iff.mpr s.contents_ne_nil
  rw [shown, List.length_append]
  omega

theorem newline_not_mem_shown {s : Stanza} {line : List Char} (h : line ∈ s.shown) :
    '\n' ∉ line := by
  rcases mem_shown h with rfl | h
  · exact List.not_mem_nil
  · rw [← (s.contents_words line h).2]
    exact newline_not_mem_spaced (fun _ hw => (isWord_of_mem_words hw).newline_not_mem)

/-- The last line of a block is not a blank one. -/
theorem tight_last (stanzas : List Stanza) :
    ∀ line ∈ (stanzas.flatMap shown).getLast?, line ≠ [] ∧ Tight line := by
  intro line hline
  rcases List.eq_nil_or_concat stanzas with rfl | ⟨front, s, rfl⟩
  · exact absurd hline (by simp)
  · rw [List.concat_eq_append, List.flatMap_append, List.flatMap_singleton, shown,
      ← List.append_assoc, List.getLast?_append_of_ne_nil _ s.contents_ne_nil] at hline
    exact tight_contents (List.mem_of_mem_getLast? hline)

end Stanza

/-! ### The lines of a block -/

theorem blockLines_blank {budget : Nat} {started parted : Bool} {line : List Char}
    {rest : List (List Char)} (h : words line = []) :
    blockLines budget started parted (line :: rest) = blockLines budget started started rest := by
  rw [blockLines, h]

theorem blockLines_line {budget : Nat} {started parted : Bool} {line : List Char}
    {rest : List (List Char)} (h : words line ≠ []) :
    blockLines budget started parted (line :: rest) =
      (if parted then [[]] else []) ++ (wrap budget (words line)).map spaced ++
        blockLines budget true false rest := by
  rw [blockLines]
  cases hwords : words line with
  | nil => exact absurd hwords h
  | cons w ws => rfl

/-- After the first line that has words the loop works off one stanza after the other.
    Between two of them it knows whether blank lines have been met, which are kept here
    as a list. Blank lines at the end belong to no stanza. -/
theorem exists_stanzas_after (budget : Nat) {gap : List (List Char)}
    (hgap : ∀ line ∈ gap, words line = []) (rest : List (List Char)) :
    ∃ stanzas : List Stanza, ∃ trailing : List (List Char),
      gap ++ rest = stanzas.flatMap Stanza.written ++ trailing ∧
      (∀ line ∈ trailing, words line = []) ∧
      blockLines budget true (!gap.isEmpty) rest = stanzas.flatMap Stanza.shown ∧
      ∀ s ∈ stanzas, s.Within budget := by
  induction rest generalizing gap with
  | nil =>
      refine ⟨[], gap, by simp, hgap, rfl, fun s hs => absurd hs List.not_mem_nil⟩
  | cons line rest ih =>
      by_cases hline : words line = []
      · -- The line joins the blank lines before it.
        have hgap' : ∀ q ∈ gap ++ [line], words q = [] := by
          intro q hq
          rcases List.mem_append.mp hq with hq | hq
          · exact hgap q hq
          · rw [List.mem_singleton.mp hq, hline]
        rcases ih hgap' with ⟨stanzas, trailing, hwritten, htrailing, hshown, hwithin⟩
        refine ⟨stanzas, trailing, ?_, htrailing, ?_, hwithin⟩
        · rw [← hwritten, List.append_assoc, List.singleton_append]
        · have hparted : (!(gap ++ [line]).isEmpty) = true := by
            simp
          rw [blockLines_blank hline, ← hshown, hparted]
      · -- The line ends a stanza, and the next one starts without blank lines.
        have hnone : ∀ q ∈ ([] : List (List Char)), words q = [] :=
          fun q hq => absurd hq List.not_mem_nil
        rcases ih hnone with ⟨stanzas, trailing, hwritten, htrailing, hshown, hwithin⟩
        refine ⟨Stanza.wrapped budget hgap hline :: stanzas, trailing, ?_, htrailing, ?_, ?_⟩
        · rw [List.nil_append] at hwritten
          rw [List.flatMap_cons, hwritten]
          simp [Stanza.written, Stanza.wrapped]
        · rw [blockLines_line hline, List.flatMap_cons, ← hshown]
          cases gap with
          | nil => rfl
          | cons q gap => rfl
        · rw [List.forall_mem_cons]
          exact ⟨Stanza.within_wrapped budget hgap hline, hwithin⟩

/-- The stanzas make up a text, and the lines of its block. No blank lines stand before
    the first of them. A text without words has no stanzas, though it has a line. -/
structure MadeOf (budget : Nat) (text : List Char) (stanzas : List Stanza) : Prop where
  written : text ≠ [] → lines text = stanzas.flatMap Stanza.written
  shown : blockLines budget false false (lines text) = stanzas.flatMap Stanza.shown
  eq_nil : text = [] → stanzas = []
  gap_first : ∀ s ∈ stanzas.head?, s.gap = []
  within : ∀ s ∈ stanzas, s.Within budget

/-- A text without blank ends and its block are made of the same stanzas. -/
theorem exists_madeOf (budget : Nat) {text : List Char} (h : Tight text) :
    ∃ stanzas, MadeOf budget text stanzas := by
  have hnone : ∀ q ∈ ([] : List (List Char)), words q = [] :=
    fun q hq => absurd hq List.not_mem_nil
  by_cases hne : text = []
  · rw [hne]
    exact ⟨[], fun hne => absurd rfl hne, rfl, fun _ => rfl, fun s hs => absurd hs (by simp),
      fun s hs => absurd hs List.not_mem_nil⟩
  cases hlines : lines text with
  | nil => exact absurd hlines (List.splitOn_ne_nil '\n' text)
  | cons line rest =>
      have hline : words line ≠ [] := h.words_first_line hne hlines
      rcases exists_stanzas_after budget hnone rest with
        ⟨more, trailing, hwritten, htrailing, hshown, hwithin⟩
      -- The last line has words, so no line is left over.
      have hended : trailing = [] := by
        rcases List.eq_nil_or_concat trailing with rfl | ⟨front, last, rfl⟩
        · rfl
        · have hlast : lines text =
              line :: (more.flatMap Stanza.written ++ front) ++ [last] := by
            rw [hlines, ← List.nil_append rest, hwritten]
            simp
          exact absurd (htrailing last (by simp)) (h.words_last_line hne hlast)
      rw [hended, List.append_nil, List.nil_append] at hwritten
      refine ⟨Stanza.wrapped budget hnone hline :: more, fun _ => ?_, ?_, fun h => absurd h hne,
        ?_, ?_⟩
      · rw [hlines, List.flatMap_cons, ← hwritten]
        rfl
      · rw [hlines, blockLines_line hline, List.flatMap_cons, ← hshown]
        rfl
      · intro s hs
        rw [← Option.some.inj hs]
        rfl
      · rw [List.forall_mem_cons]
        exact ⟨Stanza.within_wrapped budget hnone hline, hwithin⟩

/-- Lines that fit are left as they are. -/
theorem blockLines_contents {budget : Nat} {started parted : Bool}
    {contents : List (List Char)} (hne : contents ≠ [])
    (h : ∀ line ∈ contents, Fits budget (words line) ∧ spaced (words line) = line)
    (rest : List (List Char)) :
    blockLines budget started parted (contents ++ rest) =
      (if parted then [[]] else []) ++ contents ++ blockLines budget true false rest := by
  induction contents generalizing started parted with
  | nil => exact absurd rfl hne
  | cons line contents ih =>
      rw [List.forall_mem_cons] at h
      rcases h with ⟨⟨hfits, hspaced⟩, hcontents⟩
      rw [List.cons_append, blockLines_line hfits.ne_nil, wrap_of_fits hfits, List.map_singleton,
        hspaced]
      by_cases hlast : contents = []
      · simp [hlast]
      · rw [ih hlast hcontents]
        simp

theorem Stanza.Within.contents {budget : Nat} {s : Stanza} (h : s.Within budget) :
    ∀ line ∈ s.contents, Fits budget (words line) ∧ spaced (words line) = line :=
  fun line hline => ⟨h line hline, (s.contents_words line hline).2⟩

/-- Stanzas that are written the way they are shown are shown as they are. -/
theorem blockLines_shown {budget : Nat} {stanzas : List Stanza}
    (h : ∀ s ∈ stanzas, s.Within budget) :
    blockLines budget true false (stanzas.flatMap Stanza.shown) =
      stanzas.flatMap Stanza.shown := by
  induction stanzas with
  | nil => rfl
  | cons s stanzas ih =>
      rw [List.forall_mem_cons] at h
      have hrest := ih h.2
      rw [List.flatMap_cons]
      by_cases hgap : s.gap = []
      · rw [Stanza.shown_of_gap_eq_nil hgap,
          blockLines_contents s.contents_ne_nil h.1.contents, hrest]
        rfl
      · -- One blank line stands before the stanza, and it is all that is to be seen of many.
        have hparted : s.shown = [] :: s.contents := by
          simp [Stanza.shown, hgap]
        rw [hparted, List.cons_append, blockLines_blank rfl,
          blockLines_contents s.contents_ne_nil h.1.contents, hrest]
        rfl

namespace MadeOf

variable {budget : Nat} {text : List Char} {stanzas : List Stanza}

/-- The block of a text is not changed by making a block of its lines. -/
theorem blockLines_shown (h : MadeOf budget text stanzas) :
    blockLines budget false false (stanzas.flatMap Stanza.shown) =
      stanzas.flatMap Stanza.shown := by
  cases stanzas with
  | nil => rfl
  | cons s stanzas =>
      have hwithin := h.within
      rw [List.forall_mem_cons] at hwithin
      rw [List.flatMap_cons, Stanza.shown_of_gap_eq_nil (h.gap_first s rfl),
        blockLines_contents s.contents_ne_nil hwithin.1.contents,
        Comment.blockLines_shown hwithin.2]
      rfl

theorem flatMap_words (h : MadeOf budget text stanzas) :
    (stanzas.flatMap Stanza.shown).flatMap words = words text := by
  by_cases hne : text = []
  · rw [h.eq_nil hne, hne]
    rfl
  · rw [words_eq_flatMap_lines, h.written hne, List.flatMap_assoc, List.flatMap_assoc]
    refine List.flatMap_congr (fun s _ => ?_)
    rw [s.flatMap_shown, s.flatMap_written]

/-- Nor is the first line, where the text has no blank ends. -/
theorem tight_first (h : MadeOf budget text stanzas) :
    ∀ line ∈ (stanzas.flatMap Stanza.shown).head?, line ≠ [] ∧ Tight line := by
  intro line hline
  cases stanzas with
  | nil => exact absurd hline (by simp)
  | cons s stanzas =>
      rw [List.flatMap_cons, Stanza.shown_of_gap_eq_nil (h.gap_first s rfl),
        List.head?_append_of_ne_nil _ s.contents_ne_nil] at hline
      exact Stanza.tight_contents (List.mem_of_mem_head? hline)

/-- A text of several lines is shown on several lines: the first and the last have words,
    and share no line of the block. -/
theorem newline_not_mem_of_length_le_one (h : MadeOf budget text stanzas)
    (hlength : (stanzas.flatMap Stanza.shown).length ≤ 1) : '\n' ∉ text := by
  by_cases hne : text = []
  · rw [hne]
    exact List.not_mem_nil
  have hwritten := h.written hne
  rcases stanzas with _ | ⟨s, _ | ⟨s', more⟩⟩
  · exact absurd hwritten (List.splitOn_ne_nil '\n' text)
  · -- There is one line, and the text is that line.
    have hsource : lines text = [s.source] := by
      rw [hwritten, List.flatMap_singleton, Stanza.written, h.gap_first s rfl, List.nil_append]
    have hjoin := intercalate_lines text
    rw [hsource, List.intercalate_singleton] at hjoin
    rw [← hjoin]
    exact newline_not_mem_of_mem_lines (by rw [hsource]; exact List.mem_singleton_self _)
  · have hs := s.length_shown_pos
    have hs' := s'.length_shown_pos
    rw [List.flatMap_cons, List.flatMap_cons, List.length_append, List.length_append] at hlength
    omega

/-! The lines of a block, joined, are a text again. It is as tight as the first one, has
the same words, and has the same block. -/

theorem tight_join (h : MadeOf budget text stanzas) :
    Tight (['\n'].intercalate (stanzas.flatMap Stanza.shown)) :=
  tight_intercalate h.tight_first (Stanza.tight_last stanzas)

theorem words_join (h : MadeOf budget text stanzas) :
    words (['\n'].intercalate (stanzas.flatMap Stanza.shown)) = words text := by
  rw [words_intercalate isBlank_newline, h.flatMap_words]

theorem lines_join {stanzas : List Stanza} (hne : stanzas.flatMap Stanza.shown ≠ []) :
    lines (['\n'].intercalate (stanzas.flatMap Stanza.shown)) = stanzas.flatMap Stanza.shown := by
  refine List.splitOn_intercalate '\n' (fun line hline => ?_) hne
  rcases List.mem_flatMap.mp hline with ⟨s, _, hs⟩
  exact Stanza.newline_not_mem_shown hs

theorem blockLines_join (h : MadeOf budget text stanzas) :
    blockLines budget false false (lines (['\n'].intercalate (stanzas.flatMap Stanza.shown))) =
      stanzas.flatMap Stanza.shown := by
  by_cases hne : stanzas.flatMap Stanza.shown = []
  · rw [hne]
    rfl
  · rw [lines_join hne, h.blockLines_shown]

theorem newline_not_mem_of_join (h : MadeOf budget text stanzas)
    (hjoin : '\n' ∉ ['\n'].intercalate (stanzas.flatMap Stanza.shown)) : '\n' ∉ text := by
  refine h.newline_not_mem_of_length_le_one ?_
  by_cases hne : stanzas.flatMap Stanza.shown = []
  · rw [hne]
    exact Nat.zero_le 1
  · -- The join has as many lines as the block, and without a newline it has one.
    have hone := lines_join hne
    rw [lines, List.splitOn_eq_singleton hjoin] at hone
    rw [← hone, List.length_singleton]

end MadeOf

end Comment

end JavaSource
