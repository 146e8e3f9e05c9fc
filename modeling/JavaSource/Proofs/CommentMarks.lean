import JavaSource.Comment
import Mathlib.Data.List.Chain

/-!
# Comments End Where They Should

A comment ends at the first end mark, wherever that comes from. The text of a
comment is cut into words, the words are put on lines, and the lines are put
between marks that are made of the very characters of the end mark; at each of
these seams a new end mark could arise.

A text without an end mark is one in which no star has a slash right after it
(`Unclosed`). That is a condition on neighbours, so it goes over to every piece
of a text, and two texts with it can be put together unless the first ends with a
star and the second starts with a slash (`Unclosed.append`). Every seam of a
comment is safe, because a space or a newline stands on one side of it, or the
indentation on the left.

An indentation may hold slashes. It may not hold stars: a star at its end would
stand before the slash of the opening mark.

## Main definitions

* `Comment.Unclosed`: No end mark stands in the text.

## Theorems

* `Comment.findTerminator_eq_none_iff`: The search for an end mark misses none.
* `Comment.findTerminator_append`: It finds the first one, and counts the bytes
  before it.
* `Comment.Layout.arrange_eq`: The comment of an unclosed text is unclosed up to
  its last character.
* `Comment.write_closes_only_at_end`: A text is dropped if it has an end mark, and
  else its comment has one at its end only.
-/

namespace JavaSource

/-! ### Pieces of a text -/

namespace Text

/-- The first piece between separators is where the text starts, and the others
    lie in it. -/
theorem splitOnP_pieces (p : Char → Bool) (text : List Char) :
    ∃ first rest, text.splitOnP p = first :: rest ∧ first <+: text ∧
      ∀ piece ∈ rest, piece <:+: text := by
  induction text with
  | nil => exact ⟨[], [], rfl, List.nil_prefix, fun _ h => absurd h List.not_mem_nil⟩
  | cons c text ih =>
      rcases ih with ⟨first, rest, hsplit, hfirst, hrest⟩
      have hlater : ∀ {piece : List Char}, piece <:+: text → piece <:+: c :: text :=
        fun h => h.trans (List.suffix_cons c text).isInfix
      rw [List.splitOnP_cons_eq_if_modifyHead, hsplit]
      by_cases hc : p c = true
      · rw [if_pos hc]
        refine ⟨[], first :: rest, rfl, List.nil_prefix, ?_⟩
        rw [List.forall_mem_cons]
        exact ⟨hlater hfirst.isInfix, fun piece hpiece => hlater (hrest piece hpiece)⟩
      · rw [if_neg hc]
        exact ⟨c :: first, rest, rfl, List.cons_prefix_cons.mpr ⟨rfl, hfirst⟩,
          fun piece hpiece => hlater (hrest piece hpiece)⟩

theorem isInfix_of_mem_splitOnP {p : Char → Bool} {text piece : List Char}
    (h : piece ∈ text.splitOnP p) : piece <:+: text := by
  rcases splitOnP_pieces p text with ⟨first, rest, hsplit, hfirst, hrest⟩
  rw [hsplit, List.mem_cons] at h
  rcases h with rfl | h
  · exact hfirst.isInfix
  · exact hrest piece h

theorem isInfix_of_mem_words {text word : List Char} (h : word ∈ words text) : word <:+: text :=
  isInfix_of_mem_splitOnP (List.mem_filter.mp h).1

theorem isInfix_of_mem_lines {text line : List Char} (h : line ∈ lines text) : line <:+: text :=
  isInfix_of_mem_splitOnP h

theorem trim_isInfix (text : List Char) : trim text <:+: text := by
  have hend : ∀ cs : List Char, trimEnd cs <+: cs := by
    intro cs
    rw [trimEnd, ← List.reverse_suffix, List.reverse_reverse]
    exact List.dropWhile_suffix _
  exact (hend _).isInfix.trans (List.dropWhile_suffix _).isInfix

end Text

namespace Comment

open Text (words lines trim)

/-- No star of the text has a slash right after it. -/
def Unclosed (text : List Char) : Prop :=
  text.IsChain (fun a b => ¬ (a = '*' ∧ b = '/'))

namespace Unclosed

variable {text xs ys : List Char}

theorem of_isInfix (h : Unclosed text) (hxs : xs <:+: text) : Unclosed xs :=
  List.IsChain.infix h hxs

/-- Two texts are put together safely if the seam is no end mark. -/
theorem append (hxs : Unclosed xs) (hys : Unclosed ys)
    (hseam : xs.getLast? ≠ some '*' ∨ ys.head? ≠ some '/') : Unclosed (xs ++ ys) := by
  refine List.isChain_append.mpr ⟨hxs, hys, ?_⟩
  rintro a ha b hb ⟨rfl, rfl⟩
  rcases hseam with h | h
  · exact h ha
  · exact h hb

theorem of_not_mem (h : '*' ∉ text) : Unclosed text := by
  induction text with
  | nil => exact List.IsChain.nil
  | cons c text ih =>
      rw [List.mem_cons, not_or] at h
      have hc : Unclosed [c] := List.isChain_singleton c
      exact hc.append (ih h.2) (Or.inl (by simpa using Ne.symm h.1))

end Unclosed

/-- A text is unclosed exactly if the end mark does not occur in it. -/
theorem unclosed_iff {text : List Char} : Unclosed text ↔ ¬ "*/".toList <:+: text := by
  rw [Unclosed, List.isChain_iff_forall_rel_of_append_cons_cons]
  constructor
  · rintro h ⟨before, after, htext⟩
    have hsplit : text = before ++ '*' :: '/' :: after := by simp [← htext]
    exact h hsplit ⟨rfl, rfl⟩
  · rintro h a b before after htext ⟨rfl, rfl⟩
    exact h ⟨before, after, by simp [htext]⟩

/-! ### The search for an end mark -/

theorem unclosed_cons {c : Char} {text : List Char} :
    Unclosed (c :: text) ↔ ¬ (c = '*' ∧ text.head? = some '/') ∧ Unclosed text := by
  rw [Unclosed, List.isChain_cons]
  refine and_congr_left (fun _ => ⟨?_, ?_⟩)
  · rintro h ⟨hc, hslash⟩
    exact h '/' hslash ⟨hc, rfl⟩
  · rintro h b hb ⟨hc, rfl⟩
    exact h ⟨hc, hb⟩

/-- What a text starts with does not depend on what follows a star in it. -/
theorem head?_append_star (before rest : List Char) :
    (before ++ '*' :: rest).head? = (before ++ ['*']).head? := by
  cases before with
  | nil => rfl
  | cons c before => rfl

/-- The search for an end mark misses none. -/
theorem findTerminator_eq_none_iff {text : List Char} :
    findTerminator text = none ↔ Unclosed text := by
  induction text with
  | nil => exact ⟨fun _ => List.IsChain.nil, fun _ => rfl⟩
  | cons c text ih =>
      rw [findTerminator, unclosed_cons]
      by_cases hc : c = '*' ∧ text.head? = some '/'
      · rw [if_pos hc]
        simp [hc]
      · rw [if_neg hc, Option.map_eq_none_iff, ih]
        simp [hc]

/-- The search ends at the first end mark, and tells how many bytes stand before
    it. -/
theorem findTerminator_append {before : List Char} (h : Unclosed (before ++ ['*']))
    (after : List Char) :
    findTerminator (before ++ '*' :: '/' :: after) = some (String.ofList before).utf8ByteSize := by
  induction before with
  | nil => simp [findTerminator]
  | cons c before ih =>
      rw [List.cons_append, unclosed_cons] at h
      rw [List.cons_append, findTerminator, head?_append_star, if_neg h.1, ih h.2]
      simp

theorem exists_first_mark {text : List Char} (h : ¬ Unclosed text) :
    ∃ before after, text = before ++ '*' :: '/' :: after ∧ Unclosed (before ++ ['*']) := by
  induction text with
  | nil => exact absurd List.IsChain.nil h
  | cons c text ih =>
      rw [unclosed_cons] at h
      by_cases hc : c = '*' ∧ text.head? = some '/'
      · rcases hc with ⟨rfl, hslash⟩
        rcases List.head?_eq_some_iff.mp hslash with ⟨after, rfl⟩
        exact ⟨[], after, rfl, List.isChain_singleton _⟩
      · rcases ih (fun htext => h ⟨hc, htext⟩) with ⟨before, after, rfl, hbefore⟩
        refine ⟨c :: before, after, rfl, ?_⟩
        rw [head?_append_star] at hc
        rw [List.cons_append, unclosed_cons]
        exact ⟨hc, hbefore⟩

/-! ### Lines -/

/-- Texts can be joined by any character that the end mark does not have. -/
theorem unclosed_intercalate {c : Char} (hstar : c ≠ '*') (hslash : c ≠ '/')
    {texts : List (List Char)} (h : ∀ text ∈ texts, Unclosed text) :
    Unclosed ([c].intercalate texts) := by
  induction texts with
  | nil => exact List.IsChain.nil
  | cons text texts ih =>
      rw [List.forall_mem_cons] at h
      cases texts with
      | nil => simpa using h.1
      | cons next texts =>
          have hsep : Unclosed [c] := List.isChain_singleton _
          rw [List.intercalate_cons_cons]
          refine (h.1.append hsep (Or.inr ?_)).append (ih h.2) (Or.inl ?_)
          · simpa using hslash
          · simpa using hstar

theorem unclosed_spaced {ws : List (List Char)} (h : ∀ w ∈ ws, Unclosed w) :
    Unclosed (spaced ws) :=
  unclosed_intercalate (by decide) (by decide) h

theorem mem_words_of_mem_wrap {budget : Nat} {ws line : List (List Char)}
    (h : line ∈ wrap budget ws) {w : List Char} (hw : w ∈ line) : w ∈ ws := by
  rw [← flatten_wrap budget ws]
  exact List.mem_flatten_of_mem h hw

/-- Every line of a block is made of words of one paragraph, or empty. -/
theorem unclosed_of_mem_blockLines {budget : Nat} {started parted : Bool}
    {paragraphs : List (List Char)} (h : ∀ p ∈ paragraphs, Unclosed p) :
    ∀ line ∈ blockLines budget started parted paragraphs, Unclosed line := by
  induction paragraphs generalizing started parted with
  | nil => exact fun _ hline => absurd hline List.not_mem_nil
  | cons p paragraphs ih =>
      rw [List.forall_mem_cons] at h
      have hwords : ∀ w ∈ words p, Unclosed w :=
        fun w hw => h.1.of_isInfix (Text.isInfix_of_mem_words hw)
      rw [blockLines]
      cases hp : words p with
      | nil => exact ih h.2
      | cons w ws =>
          intro line hline
          simp only [List.mem_append, List.mem_map] at hline
          rcases hline with (hline | ⟨ws', hws, rfl⟩) | hline
          · -- The line that parts two paragraphs is empty.
            have hempty : line = [] := by
              cases parted with
              | false => exact absurd hline List.not_mem_nil
              | true => exact List.mem_singleton.mp hline
            rw [hempty]
            exact List.IsChain.nil
          · refine unclosed_spaced (fun w' hw' => hwords w' ?_)
            rw [hp]
            exact mem_words_of_mem_wrap hws hw'
          · exact ih h.2 line hline

/-! ### Comments -/

namespace Layout

variable {l : Layout}

theorem unclosed_blockLine (hindent : '*' ∉ l.margin) {line : List Char} (h : Unclosed line) :
    Unclosed (l.blockLine line) := by
  have hmargin : l.margin.getLast? ≠ some '*' := fun hlast => hindent (List.mem_of_getLast? hlast)
  have hend : Unclosed ['\n'] := List.isChain_singleton _
  have hmarked : Unclosed (if line.isEmpty then " *".toList else " * ".toList ++ line) := by
    cases line with
    | nil => exact unclosed_iff.mpr (by decide)
    | cons c line =>
        have hmark : Unclosed " * ".toList := unclosed_iff.mpr (by decide)
        exact hmark.append h (Or.inl (by decide))
  rw [blockLine]
  exact ((Unclosed.of_not_mem hindent).append hmarked (Or.inl hmargin)).append hend
    (Or.inr (by decide))

/-- Whatever is safe by itself is safe after the lines of a block. -/
theorem unclosed_blockLines_append (hindent : '*' ∉ l.margin) {lines : List (List Char)}
    (h : ∀ line ∈ lines, Unclosed line) {rest : List Char} (hrest : Unclosed rest) :
    Unclosed ((lines.map l.blockLine).flatten ++ rest) := by
  induction lines with
  | nil => exact hrest
  | cons line lines ih =>
      rw [List.forall_mem_cons] at h
      rw [List.map_cons, List.flatten_cons, List.append_assoc]
      -- A line ends with a newline, so what follows it makes no mark with it.
      refine (unclosed_blockLine hindent h.1).append (ih h.2) (Or.inl ?_)
      simp [blockLine]

/-- The comment of an unclosed text is an unclosed body between the marks. The
    body does not start with a slash, and a space stands after it. -/
theorem arrange_eq (l : Layout) (hindent : '*' ∉ l.margin) {text : List Char} (h : Unclosed text) :
    ∃ body, l.arrange text = l.margin ++ "/**".toList ++ body ++ " */".toList ∧
      Unclosed body ∧ body.head? ≠ some '/' := by
  have hblank : ∀ {c : Char} {cs : List Char}, c ≠ '*' → Unclosed cs → Unclosed (c :: cs) :=
    fun hc hcs => unclosed_cons.mpr ⟨fun hmark => hc hmark.1, hcs⟩
  rw [arrange]
  split
  · rw [oneLine]
    cases hwords : words text with
    | nil => exact ⟨[], by simp, List.IsChain.nil, by decide⟩
    | cons w ws =>
        have hspaced : Unclosed (spaced (w :: ws)) := by
          rw [← hwords]
          exact unclosed_spaced (fun w hw => h.of_isInfix (Text.isInfix_of_mem_words hw))
        refine ⟨' ' :: spaced (w :: ws), by simp, hblank (by decide) hspaced, ?_⟩
        rw [List.head?_cons]
        decide
  · have hlines : ∀ line ∈ blockLines l.budget false false (lines text), Unclosed line :=
      unclosed_of_mem_blockLines (fun p hp => h.of_isInfix (Text.isInfix_of_mem_lines hp))
    have hfilled := unclosed_blockLines_append hindent hlines (Unclosed.of_not_mem hindent)
    refine ⟨'\n' :: (((blockLines l.budget false false (lines text)).map l.blockLine).flatten
      ++ l.margin), by simp [block], hblank (by decide) hfilled, ?_⟩
    rw [List.head?_cons]
    decide

end Layout

/-- A comment that is unclosed without its last character has its only end mark
    at the end. -/
theorem eq_nil_of_mark {front before after : List Char} (h : Unclosed (front ++ ['*']))
    (heq : front ++ "*/".toList = before ++ "*/".toList ++ after) : after = [] := by
  rcases List.eq_nil_or_concat after with rfl | ⟨rest, c, rfl⟩
  · rfl
  · -- Otherwise the mark would stand before the last character.
    have hfront : (front ++ ['*']) ++ ['/'] = (before ++ "*/".toList ++ rest) ++ [c] := by
      simpa using heq
    have hmark : front ++ ['*'] = before ++ "*/".toList ++ rest :=
      (List.append_inj_left' hfront rfl)
    exact absurd ⟨before, rest, hmark.symm⟩ (unclosed_iff.mp h)

/-- No end mark starts before one that has none before it. -/
theorem length_le_of_mark {before after before' after' : List Char}
    (h : Unclosed (before ++ ['*']))
    (heq : before ++ "*/".toList ++ after = before' ++ "*/".toList ++ after') :
    before.length ≤ before'.length := by
  by_contra hlt
  -- An earlier mark would lie within the part that has none.
  have hmark : before' ++ "*/".toList <+: before ++ "*/".toList ++ after := by
    rw [heq]
    exact List.prefix_append _ _
  have hfront : before ++ ['*'] <+: before ++ "*/".toList ++ after := ⟨'/' :: after, by simp⟩
  have hearly : before' ++ "*/".toList <+: before ++ ['*'] := by
    refine List.prefix_of_prefix_length_le hmark hfront ?_
    have htwo : "*/".toList.length = 2 := rfl
    simp only [List.length_append, List.length_singleton, htwo]
    omega
  exact unclosed_iff.mp h ((List.suffix_append _ _).isInfix.trans hearly.isInfix)

/-- A text with an end mark is refused at the first one. -/
theorem Layout.format_eq_error (l : Layout) {text : String} (h : "*/".toList <:+: text.toList) :
    ∃ before after, text = before ++ "*/" ++ after ∧
      (∀ before' after', text = before' ++ "*/" ++ after' → before.length ≤ before'.length) ∧
      l.format text = .error (.terminator before.utf8ByteSize) := by
  have hclosed : ¬ Unclosed text.toList := fun hopen => unclosed_iff.mp hopen h
  rcases exists_first_mark hclosed with ⟨before, after, htext, hbefore⟩
  refine ⟨String.ofList before, String.ofList after, ?_, ?_, ?_⟩
  · rw [← String.toList_inj, htext]
    simp
  · intro before' after' htext'
    have heq : before ++ "*/".toList ++ after = before'.toList ++ "*/".toList ++ after'.toList := by
      rw [← String.toList_append, ← String.toList_append, ← htext', htext]
      simp
    rw [String.length_ofList, ← String.length_toList]
    exact length_le_of_mark hbefore heq
  · rw [format, htext, findTerminator_append hbefore]

/-- A text without an end mark has a comment, which is unclosed up to its last
    character. -/
theorem Layout.format_eq_ok {l : Layout} (hindent : '*' ∉ l.indent.toList) {text : String}
    (h : ¬ "*/".toList <:+: text.toList) :
    ∃ middle, l.format text = .ok (l.indent ++ "/**" ++ middle ++ "*/") ∧
      Unclosed (l.indent.toList ++ "/**".toList ++ middle.toList ++ ['*']) := by
  have hopen : Unclosed text.toList := unclosed_iff.mpr h
  have htrim : Unclosed (trim text.toList) := hopen.of_isInfix (Text.trim_isInfix _)
  rcases l.arrange_eq hindent htrim with ⟨body, harrange, hbody, hhead⟩
  refine ⟨String.ofList (body ++ [' ']), ?_, ?_⟩
  · have hcomment : String.ofList (l.arrange (trim text.toList)) =
        l.indent ++ "/**" ++ String.ofList (body ++ [' ']) ++ "*/" := by
      rw [← String.toList_inj, harrange, margin]
      simp
    rw [format, findTerminator_eq_none_iff.mpr hopen, ← hcomment]
  · have hmargin : l.indent.toList.getLast? ≠ some '*' :=
      fun hlast => hindent (List.mem_of_getLast? hlast)
    have hmark : Unclosed "/**".toList := unclosed_iff.mpr (by decide)
    have hclose : Unclosed [' ', '*'] := unclosed_iff.mpr (by decide)
    have hfront := (Unclosed.of_not_mem hindent).append hmark (Or.inl hmargin)
    have hall := (hfront.append hbody (Or.inr hhead)).append hclose (Or.inr (by decide))
    simpa using hall

/-- The comment of a text is dropped exactly if the end mark of a comment stands in
    the text; what is reported then is the number of bytes before its first
    occurrence. Otherwise the comment starts with the indentation and the opening
    mark and ends with the end mark, which stands nowhere else in it. -/
theorem write_closes_only_at_end {l : Layout} (hindent : '*' ∉ l.indent.toList) (text : String) :
    ((writeComment l.format text).value = "" ↔ "*/".toList <:+: text.toList) ∧
    ("*/".toList <:+: text.toList →
      ∃ before after, text = before ++ "*/" ++ after ∧
        (∀ before' after', text = before' ++ "*/" ++ after' → before.length ≤ before'.length) ∧
        l.format text = .error (.terminator before.utf8ByteSize) ∧
        (writeComment l.format text).events =
          [.commentDropped (FormatError.terminator before.utf8ByteSize).message
            text.utf8ByteSize]) ∧
    (¬ "*/".toList <:+: text.toList →
      (∃ middle, (writeComment l.format text).value = l.indent ++ "/**" ++ middle ++ "*/") ∧
        ∀ before after, (writeComment l.format text).value = before ++ "*/" ++ after →
          after = "") := by
  by_cases hmark : "*/".toList <:+: text.toList
  · rcases l.format_eq_error hmark with ⟨before, after, htext, hfirst, hformat⟩
    refine ⟨⟨fun _ => hmark, fun _ => ?_⟩, fun _ => ⟨before, after, htext, hfirst, hformat, ?_⟩,
      fun h => absurd hmark h⟩
    · rw [writeComment, hformat]
      rfl
    · rw [writeComment, hformat]
      rfl
  · rcases Layout.format_eq_ok hindent hmark with ⟨middle, hformat, hopen⟩
    have hvalue : (writeComment l.format text).value = l.indent ++ "/**" ++ middle ++ "*/" := by
      rw [writeComment, hformat]
      rfl
    refine ⟨⟨fun hempty => ?_, fun h => absurd h hmark⟩, fun h => absurd h hmark,
      fun _ => ⟨⟨middle, hvalue⟩, ?_⟩⟩
    · -- A comment has its marks at least.
      have hlength := congrArg String.length (hvalue.symm.trans hempty)
      simp at hlength
    · intro before after hafter
      rw [hvalue, ← String.toList_inj] at hafter
      simp only [String.toList_append] at hafter
      rw [← String.toList_inj]
      exact eq_nil_of_mark hopen hafter

/-- A text whose stars and slashes are only parted by line ends, behind an
    indentation of slashes; and a text with two end marks. -/
theorem write_slashes_and_stars :
    '*' ∉ "//".toList ∧
    ((∃ middle, (writeComment (Layout.format ⟨12, "//"⟩) "**\n/ é *").value =
        "//" ++ "/**" ++ middle ++ "*/") ∧
      ∀ before after, (writeComment (Layout.format ⟨12, "//"⟩) "**\n/ é *").value =
        before ++ "*/" ++ after → after = "") ∧
    (writeComment (Layout.format ⟨12, "//"⟩) "é**/ */").value = "" :=
  have hindent : '*' ∉ (Layout.mk 12 "//").indent.toList := by decide
  ⟨hindent, (write_closes_only_at_end hindent "**\n/ é *").2.2 (by decide +kernel),
    (write_closes_only_at_end hindent "é**/ */").1.mpr (by decide +kernel)⟩

end Comment

end JavaSource
