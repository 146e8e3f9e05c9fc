import JavaSource.Text.Blank
import Mathlib.Data.List.DropRight
import Mathlib.Data.List.TakeWhile

/-!
# Words and Lines of a Text

How the three readings of a text, as words, as lines and without the blanks at its
ends, bear on each other.

Words come out of a text at its blanks, so a single equation says most of what
there is to say: at a blank, the words of a text part (`words_append_blank`). It
follows that texts can be put together with a blank between them and their words
come out again one text after the other (`words_intercalate`). A text is the join
of its lines, and a newline is a blank, so its words are the words of its lines.

Trimming changes no word, and what it leaves has an end that is not blank on
either side (`Tight`). The use of that is in the lines: the first and the last
line of a tight text have words, and whatever lines are blank lie between others.

## Main definitions

* `IsWord`: A word is not empty and holds no blank.
* `Tight`: No end of the text is blank.

## Theorems

* `words_append_blank`: At a blank the words of a text part.
* `words_intercalate`: The words of texts that are joined by a blank.
* `words_eq_flatMap_lines`: The words of a text are the words of its lines.
* `lines_ended`: The lines of a text that is made of ended lines.
* `words_trim`, `tight_trim`: Trimming keeps the words and leaves no blank end.
* `trim_between`: Trimming removes all blanks that a text is put between.
* `Tight.words_first_line`, `Tight.words_last_line`: The outer lines of a tight text
  have words.
* `tight_intercalate`: A join is tight if its outer texts are.
-/

namespace JavaSource

namespace Text

theorem isBlank_newline : isBlank '\n' = true := by
  decide

theorem isBlank_space : isBlank ' ' = true := by
  decide

/-! ### Words -/

/-- A word is not empty and holds no blank. -/
def IsWord (w : List Char) : Prop :=
  w ≠ [] ∧ ∀ c ∈ w, isBlank c = false

theorem IsWord.newline_not_mem {w : List Char} (h : IsWord w) : '\n' ∉ w := by
  intro hmem
  have hblank := h.2 '\n' hmem
  rw [isBlank_newline] at hblank
  cases hblank

theorem not_of_mem_splitOnP {p : Char → Bool} {text piece : List Char}
    (h : piece ∈ text.splitOnP p) : ∀ c ∈ piece, p c = false := by
  induction text generalizing piece with
  | nil =>
      rw [List.splitOnP_nil, List.mem_singleton] at h
      rw [h]
      exact fun c hc => absurd hc List.not_mem_nil
  | cons d text ih =>
      rw [List.splitOnP_cons_eq_if_modifyHead] at h
      by_cases hd : p d = true
      · rw [if_pos hd, List.mem_cons] at h
        rcases h with rfl | h
        · exact fun c hc => absurd hc List.not_mem_nil
        · exact ih h
      · -- The character goes to the front of the first piece.
        rw [if_neg hd] at h
        cases hsplit : text.splitOnP p with
        | nil => exact absurd hsplit (List.splitOnP_ne_nil p text)
        | cons first rest =>
            rw [hsplit, List.modifyHead_cons, List.mem_cons] at h
            rcases h with rfl | h
            · intro c hc
              rcases List.mem_cons.mp hc with rfl | hc
              · simpa using hd
              · exact ih (by rw [hsplit]; exact List.mem_cons_self) c hc
            · exact ih (by rw [hsplit]; exact List.mem_cons_of_mem _ h)

theorem isWord_of_mem_words {text w : List Char} (h : w ∈ words text) : IsWord w := by
  rcases List.mem_filter.mp h with ⟨hpiece, hne⟩
  exact ⟨by simpa using hne, not_of_mem_splitOnP hpiece⟩

/-- At a blank the words of a text part. -/
theorem words_append_blank {c : Char} (hc : isBlank c = true) (front rest : List Char) :
    words (front ++ c :: rest) = words front ++ words rest := by
  unfold words
  rw [List.splitOnP_append_cons front rest hc, List.filter_append]

theorem words_cons_blank {c : Char} (hc : isBlank c = true) (rest : List Char) :
    words (c :: rest) = words rest :=
  words_append_blank hc [] rest

theorem words_concat_blank {c : Char} (hc : isBlank c = true) (front : List Char) :
    words (front ++ [c]) = words front := by
  rw [words_append_blank hc front [], show words [] = [] from rfl, List.append_nil]

theorem words_of_isWord {w : List Char} (h : IsWord w) : words w = [w] := by
  unfold words
  rw [List.splitOnP_eq_singleton h.2]
  simp [h.1]

theorem flatMap_words_of_isWord {ws : List (List Char)} (h : ∀ w ∈ ws, IsWord w) :
    ws.flatMap words = ws := by
  induction ws with
  | nil => rfl
  | cons w ws ih =>
      rw [List.forall_mem_cons] at h
      rw [List.flatMap_cons, words_of_isWord h.1, ih h.2, List.singleton_append]

theorem words_cons_ne_nil {c : Char} (hc : isBlank c = false) (rest : List Char) :
    words (c :: rest) ≠ [] := by
  unfold words
  rw [List.splitOnP_cons_eq_if_modifyHead, hc]
  cases hsplit : rest.splitOnP isBlank with
  | nil => exact absurd hsplit (List.splitOnP_ne_nil isBlank rest)
  | cons first more => simp

theorem words_eq_nil_iff {text : List Char} : words text = [] ↔ ∀ c ∈ text, isBlank c = true := by
  induction text with
  | nil => exact ⟨fun _ c hc => absurd hc List.not_mem_nil, fun _ => rfl⟩
  | cons c text ih =>
      rw [List.forall_mem_cons]
      by_cases hc : isBlank c = true
      · rw [words_cons_blank hc, ih]
        exact ⟨fun h => ⟨hc, h⟩, fun h => h.2⟩
      · refine ⟨fun h => absurd h (words_cons_ne_nil (by simpa using hc) text), fun h => ?_⟩
        exact absurd h.1 hc

/-- Texts that are joined by a blank keep their words. -/
theorem words_intercalate {c : Char} (hc : isBlank c = true) (texts : List (List Char)) :
    words ([c].intercalate texts) = texts.flatMap words := by
  induction texts with
  | nil => rfl
  | cons text texts ih =>
      cases texts with
      | nil => simp
      | cons next texts =>
          rw [List.intercalate_cons_cons, List.append_assoc, List.singleton_append,
            words_append_blank hc, ih]
          rfl

theorem intercalate_lines (text : List Char) : ['\n'].intercalate (lines text) = text :=
  List.intercalate_splitOn '\n'

theorem newline_not_mem_of_mem_lines {text line : List Char} (h : line ∈ lines text) :
    '\n' ∉ line := by
  intro hmem
  have hsep := not_of_mem_splitOnP h '\n' hmem
  simp at hsep

theorem words_eq_flatMap_lines (text : List Char) : words text = (lines text).flatMap words := by
  rw [← words_intercalate isBlank_newline, intercalate_lines]

/-! ### Joined texts -/

section Joined

variable {sep : List Char} {text : List Char} {texts : List (List Char)}

theorem intercalate_concat (h : texts ≠ []) :
    sep.intercalate (texts ++ [text]) = sep.intercalate texts ++ sep ++ text := by
  induction texts with
  | nil => exact absurd rfl h
  | cons first texts ih =>
      cases texts with
      | nil => simp [List.intercalate_cons_cons]
      | cons next texts =>
          have hrest := ih (List.cons_ne_nil next texts)
          rw [List.cons_append] at hrest
          rw [List.cons_append, List.cons_append, List.intercalate_cons_cons, hrest,
            List.intercalate_cons_cons]
          simp only [List.append_assoc]

theorem mem_intercalate {c : Char} (h : c ∈ sep.intercalate texts) :
    c ∈ sep ∨ ∃ text ∈ texts, c ∈ text := by
  induction texts with
  | nil => exact absurd h List.not_mem_nil
  | cons text texts ih =>
      cases texts with
      | nil =>
          rw [List.intercalate_singleton] at h
          exact Or.inr ⟨text, List.mem_cons_self, h⟩
      | cons next texts =>
          rw [List.intercalate_cons_cons, List.mem_append, List.mem_append] at h
          rcases h with (h | h) | h
          · exact Or.inr ⟨text, List.mem_cons_self, h⟩
          · exact Or.inl h
          · rcases ih h with h | ⟨other, hother, h⟩
            · exact Or.inl h
            · exact Or.inr ⟨other, List.mem_cons_of_mem _ hother, h⟩

theorem head?_intercalate (h : text ≠ []) :
    (sep.intercalate (text :: texts)).head? = text.head? := by
  cases texts with
  | nil => rw [List.intercalate_singleton]
  | cons next texts =>
      rw [List.intercalate_cons_cons, List.append_assoc, List.head?_append_of_ne_nil _ h]

theorem getLast?_intercalate (h : text ≠ []) :
    (sep.intercalate (texts ++ [text])).getLast? = text.getLast? := by
  by_cases htexts : texts = []
  · rw [htexts, List.nil_append, List.intercalate_singleton]
  · rw [intercalate_concat htexts, List.getLast?_append_of_ne_nil _ h]

end Joined

/-- Lines that end with newlines, and one that does not, are joined by newlines. -/
theorem flatten_ended_append (body : List (List Char)) (last : List Char) :
    (body.map (· ++ ['\n'])).flatten ++ last = ['\n'].intercalate (body ++ [last]) := by
  induction body with
  | nil => simp
  | cons line body ih =>
      have hne : body ++ [last] ≠ [] := by simp
      rw [List.map_cons, List.flatten_cons, List.append_assoc, ih, List.cons_append,
        List.intercalate_cons_of_ne_nil hne]

/-- Lines that all end with newlines are the lines of their text, and an empty one is left
    after the last newline. -/
theorem lines_ended {body : List (List Char)} (h : ∀ line ∈ body, '\n' ∉ line) :
    lines (body.map (· ++ ['\n'])).flatten = body ++ [[]] := by
  have hjoin := flatten_ended_append body []
  rw [List.append_nil] at hjoin
  rw [hjoin]
  refine List.splitOn_intercalate '\n' (fun line hline => ?_) (by simp)
  rcases List.mem_append.mp hline with hline | hline
  · exact h line hline
  · rw [List.mem_singleton.mp hline]
    exact List.not_mem_nil

/-! ### Ends -/

/-- Neither the first nor the last character of the text is blank. -/
structure Tight (text : List Char) : Prop where
  head : ∀ c ∈ text.head?, isBlank c = false
  last : ∀ c ∈ text.getLast?, isBlank c = false

theorem IsWord.tight {w : List Char} (h : IsWord w) : Tight w :=
  ⟨fun c hc => h.2 c (List.mem_of_mem_head? hc), fun c hc => h.2 c (List.mem_of_mem_getLast? hc)⟩

theorem trimEnd_eq (text : List Char) : trimEnd text = text.rdropWhile isBlank :=
  rfl

theorem words_dropWhile (text : List Char) : words (text.dropWhile isBlank) = words text := by
  induction text with
  | nil => rfl
  | cons c text ih =>
      by_cases hc : isBlank c = true
      · rw [List.dropWhile_cons_of_pos hc, ih, words_cons_blank hc]
      · rw [List.dropWhile_cons_of_neg hc]

theorem words_trimEnd (text : List Char) : words (trimEnd text) = words text := by
  rw [trimEnd_eq]
  induction text using List.reverseRecOn with
  | nil => rfl
  | append_singleton front c ih =>
      by_cases hc : isBlank c = true
      · rw [List.rdropWhile_concat_pos _ _ _ hc, ih, words_concat_blank hc]
      · rw [List.rdropWhile_concat_neg _ _ _ hc]

theorem words_trim (text : List Char) : words (trim text) = words text := by
  rw [trim, words_trimEnd, words_dropWhile]

theorem tight_trim (text : List Char) : Tight (trim text) := by
  rw [trim, trimEnd_eq]
  refine ⟨fun c hc => ?_, fun c hc => ?_⟩
  · -- What is left starts where the text without its first blanks starts.
    rcases List.rdropWhile_prefix isBlank (l := text.dropWhile isBlank) with ⟨rest, hrest⟩
    have hhead : c ∈ (text.dropWhile isBlank).head? := by
      rw [← hrest]
      exact List.mem_head?_append_of_mem_head? hc
    have hnot := List.head?_dropWhile_not isBlank text
    rw [Option.mem_def.mp hhead] at hnot
    exact hnot
  · rcases List.mem_getLast?_eq_getLast hc with ⟨hne, rfl⟩
    simpa using List.rdropWhile_last_not isBlank _ hne

theorem Tight.trim_eq {text : List Char} (h : Tight text) : trim text = text := by
  have hfront : text.dropWhile isBlank = text := by
    cases text with
    | nil => rfl
    | cons c text =>
        have hc : isBlank c = false := h.head c rfl
        rw [List.dropWhile_cons_of_neg (by rw [hc]; exact Bool.false_ne_true)]
  rw [trim, hfront, trimEnd_eq, List.rdropWhile_eq_self_iff]
  intro hne
  rw [h.last _ (List.getLast_mem_getLast? hne)]
  exact Bool.false_ne_true

theorem Tight.words_ne_nil {text : List Char} (h : Tight text) (hne : text ≠ []) :
    words text ≠ [] := by
  cases text with
  | nil => exact absurd rfl hne
  | cons c text => exact words_cons_ne_nil (h.head c rfl) text

theorem trim_eq_nil_iff {text : List Char} : trim text = [] ↔ ∀ c ∈ text, isBlank c = true := by
  rw [← words_eq_nil_iff, ← words_trim]
  constructor
  · intro h
    rw [h]
    rfl
  · intro h
    by_contra hne
    exact (tight_trim text).words_ne_nil hne h

/-- Blanks around a text make no difference to what is left of it. -/
theorem trim_between {front back : List Char} (hfront : ∀ c ∈ front, isBlank c = true)
    (hback : ∀ c ∈ back, isBlank c = true) (text : List Char) :
    trim (front ++ text ++ back) = trim text := by
  have hend : ∀ t, trimEnd (t ++ back) = trimEnd t := by
    intro t
    rw [trimEnd, trimEnd, List.reverse_append, List.dropWhile_append_of_pos (by simpa using hback)]
  rw [trim, trim, List.append_assoc, List.dropWhile_append_of_pos hfront, List.dropWhile_append]
  split
  · -- Where the text is blank, so is all that follows it.
    rename_i hblank
    rw [List.isEmpty_iff.mp hblank, List.dropWhile_eq_nil_iff.mpr hback]
  · exact hend _

theorem Tight.eq_nil_of_prefix {text front : List Char} (h : Tight text) (hfront : front <+: text)
    (hblank : words front = []) : front = [] := by
  rcases hfront with ⟨rest, rfl⟩
  cases front with
  | nil => rfl
  | cons c front => exact absurd hblank (words_cons_ne_nil (h.head c rfl) front)

theorem Tight.eq_nil_of_suffix {text back : List Char} (h : Tight text) (hback : back <:+ text)
    (hblank : words back = []) : back = [] := by
  rcases hback with ⟨front, rfl⟩
  by_contra hne
  have hlast : back.getLast hne ∈ (front ++ back).getLast? :=
    List.mem_getLast?_append_of_mem_getLast? (List.getLast_mem_getLast? hne)
  have hc := words_eq_nil_iff.mp hblank _ (List.getLast_mem hne)
  rw [h.last _ hlast] at hc
  cases hc

/-- A tight text does not start with a blank line, since the line and the newline after
    it would be blanks in front of it. -/
theorem Tight.words_first_line {text first : List Char} {rest : List (List Char)} (h : Tight text)
    (hne : text ≠ []) (hlines : lines text = first :: rest) : words first ≠ [] := by
  intro hblank
  have hjoin := intercalate_lines text
  rw [hlines] at hjoin
  cases rest with
  | nil =>
      rw [List.intercalate_singleton] at hjoin
      rw [hjoin] at hblank
      exact h.words_ne_nil hne hblank
  | cons next rest =>
      rw [List.intercalate_cons_cons] at hjoin
      have hfront : first ++ ['\n'] <+: text := ⟨_, hjoin⟩
      have hempty := h.eq_nil_of_prefix hfront (by rw [words_concat_blank isBlank_newline, hblank])
      simp at hempty

/-- Nor does it end with one. -/
theorem Tight.words_last_line {text last : List Char} {front : List (List Char)} (h : Tight text)
    (hne : text ≠ []) (hlines : lines text = front ++ [last]) : words last ≠ [] := by
  intro hblank
  have hjoin := intercalate_lines text
  rw [hlines] at hjoin
  by_cases hfront : front = []
  · rw [hfront, List.nil_append, List.intercalate_singleton] at hjoin
    rw [hjoin] at hblank
    exact h.words_ne_nil hne hblank
  · rw [intercalate_concat hfront, List.append_assoc] at hjoin
    have hback : '\n' :: last <:+ text := ⟨_, hjoin⟩
    have hempty := h.eq_nil_of_suffix hback (by rw [words_cons_blank isBlank_newline, hblank])
    cases hempty

/-- A join is tight if the texts at its ends are, whatever stands between. -/
theorem tight_intercalate {sep : List Char} {texts : List (List Char)}
    (hfirst : ∀ text ∈ texts.head?, text ≠ [] ∧ Tight text)
    (hlast : ∀ text ∈ texts.getLast?, text ≠ [] ∧ Tight text) : Tight (sep.intercalate texts) := by
  by_cases hne : texts = []
  · rw [hne]
    exact ⟨fun c hc => absurd hc (by simp), fun c hc => absurd hc (by simp)⟩
  refine ⟨fun c hc => ?_, fun c hc => ?_⟩
  · rcases List.exists_cons_of_ne_nil hne with ⟨text, rest, rfl⟩
    rcases hfirst text rfl with ⟨htext, htight⟩
    rw [head?_intercalate htext] at hc
    exact htight.head c hc
  · rcases List.eq_nil_or_concat texts with h | ⟨front, text, rfl⟩
    · exact absurd h hne
    · rcases hlast text (by simp) with ⟨htext, htight⟩
      rw [List.concat_eq_append, getLast?_intercalate htext] at hc
      exact htight.last c hc

end Text

end JavaSource
