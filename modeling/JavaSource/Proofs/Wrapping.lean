import JavaSource.Proofs.CommentMarks
import JavaSource.Proofs.Words

/-!
# Wrapped Lines

What the lines of a paragraph are like, whatever its words.

Filling is greedy. A line takes the next word if there is room for it, so what stands
behind its first word is within the budget; the first word it takes in any case. What
comes out of this is `Fits`: a line of several words is within the budget, and a line
of a single word may be of any width. The width that the program carries along is a
running count, and it is in step with the width of the line as it is written
(`length_spaced_cons`).

The converse makes wrapping stable. Filling looks at nothing but widths, so that a line
that fits is not wrapped any further (`wrap_of_fits`), however it came about.

## Main definitions

* `trail`: The width that words take behind another.
* `Fits`: A line has a single word, or is within the budget.

## Theorems

* `words_spaced`: Words that are put on a line can be read from it.
* `length_spaced_cons`: The width of a line, word by word.
* `fits_cons`, `Fits.within`: When a line fits, by what stands behind its first word.
* `fill_within`: A line is filled within the budget, and the further lines fit.
* `fits_of_mem_wrap`: Wrapping makes lines that fit.
* `wrap_of_fits`: A line that fits is wrapped to itself.
-/

namespace JavaSource

namespace Comment

open Text

/-! ### Words on a line -/

section Spaced

variable {ws : List (List Char)}

theorem words_spaced (h : ∀ w ∈ ws, IsWord w) : words (spaced ws) = ws := by
  rw [spaced, words_intercalate isBlank_space, flatMap_words_of_isWord h]

theorem tight_spaced (h : ∀ w ∈ ws, IsWord w) : Tight (spaced ws) := by
  refine tight_intercalate (fun w hw => ?_) (fun w hw => ?_)
  · have hword := h w (List.mem_of_mem_head? hw)
    exact ⟨hword.1, hword.tight⟩
  · have hword := h w (List.mem_of_mem_getLast? hw)
    exact ⟨hword.1, hword.tight⟩

theorem newline_not_mem_spaced (h : ∀ w ∈ ws, '\n' ∉ w) : '\n' ∉ spaced ws := by
  intro hmem
  rcases mem_intercalate hmem with hspace | ⟨w, hw, hnewline⟩
  · exact absurd hspace (by decide)
  · exact h w hw hnewline

end Spaced

/-! ### Filling -/

/-- The width that words take behind another on a line. -/
def trail : List (List Char) → Nat
  | [] => 0
  | w :: ws => 1 + w.length + trail ws

theorem length_spaced_cons (w : List Char) (ws : List (List Char)) :
    (spaced (w :: ws)).length = w.length + trail ws := by
  induction ws generalizing w with
  | nil => simp [spaced, trail]
  | cons w' ws ih =>
      have hrest : (spaced (w' :: ws)).length = w'.length + trail ws := ih w'
      rw [spaced, List.intercalate_cons_cons, ← spaced, List.length_append, List.length_append,
        hrest, trail, List.length_singleton]
      omega

/-- A line has a single word, or it is within the budget. -/
structure Fits (budget : Nat) (line : List (List Char)) : Prop where
  ne_nil : line ≠ []
  length_le : 2 ≤ line.length → (spaced line).length ≤ budget

/-- A line with a first word fits if what it takes behind that word leaves it within the
    budget. -/
theorem fits_cons {budget : Nat} {w : List Char} {ws : List (List Char)}
    (h : ws = [] ∨ w.length + trail ws ≤ budget) : Fits budget (w :: ws) := by
  refine ⟨List.cons_ne_nil w ws, fun htwo => ?_⟩
  rcases h with rfl | h
  · simp at htwo
  · rw [length_spaced_cons]
    exact h

/-- What a line that fits has behind its first word is nothing, or within the budget. -/
theorem Fits.within {budget : Nat} {w : List Char} {ws : List (List Char)}
    (h : Fits budget (w :: ws)) : ws = [] ∨ w.length + trail ws ≤ budget := by
  cases ws with
  | nil => exact Or.inl rfl
  | cons w' ws =>
      have hwidth := h.length_le (by simp)
      rw [length_spaced_cons] at hwidth
      exact Or.inr hwidth

/-- A line is filled within the budget, and the further lines fit. -/
theorem fill_within (budget width : Nat) (ws : List (List Char)) :
    ((fill budget width ws).1 = [] ∨ width + trail (fill budget width ws).1 ≤ budget) ∧
      ∀ line ∈ (fill budget width ws).2, Fits budget line := by
  induction ws generalizing width with
  | nil => exact ⟨Or.inl rfl, fun line hline => absurd hline List.not_mem_nil⟩
  | cons w ws ih =>
      by_cases hroom : width + 1 + w.length ≤ budget
      · -- The word goes on the line, which is then that much wider.
        rcases ih (width + 1 + w.length) with ⟨hline, hfurther⟩
        simp only [fill, if_pos hroom]
        refine ⟨Or.inr ?_, hfurther⟩
        rw [trail]
        rcases hline with hline | hline
        · rw [hline, trail]
          omega
        · omega
      · -- The word starts a line of its own.
        rcases ih w.length with ⟨hline, hfurther⟩
        simp only [fill, if_neg hroom]
        refine ⟨Or.inl trivial, ?_⟩
        rw [List.forall_mem_cons]
        exact ⟨fits_cons hline, hfurther⟩

/-- Wrapping makes lines that fit. -/
theorem fits_of_mem_wrap {budget : Nat} {ws line : List (List Char)} (h : line ∈ wrap budget ws) :
    Fits budget line := by
  cases ws with
  | nil => exact absurd h List.not_mem_nil
  | cons w ws =>
      rcases fill_within budget w.length ws with ⟨hline, hfurther⟩
      rw [wrap, List.mem_cons] at h
      rcases h with rfl | h
      · exact fits_cons hline
      · exact hfurther line h

theorem fill_of_le {budget width : Nat} {ws : List (List Char)} (h : width + trail ws ≤ budget) :
    fill budget width ws = (ws, []) := by
  induction ws generalizing width with
  | nil => rfl
  | cons w ws ih =>
      rw [trail] at h
      have hroom : width + 1 + w.length ≤ budget := by omega
      have hrest : fill budget (width + 1 + w.length) ws = (ws, []) := ih (by omega)
      simp only [fill, if_pos hroom, hrest]

/-- A line that fits is wrapped to itself. -/
theorem wrap_of_fits {budget : Nat} {line : List (List Char)} (h : Fits budget line) :
    wrap budget line = [line] := by
  cases line with
  | nil => exact absurd rfl h.ne_nil
  | cons w ws =>
      have hfill : fill budget w.length ws = (ws, []) := by
        rcases h.within with rfl | hwidth
        · rfl
        · exact fill_of_le hwidth
      simp only [wrap, hfill]

theorem wrap_ne_nil {budget : Nat} {ws : List (List Char)} (h : ws ≠ []) : wrap budget ws ≠ [] := by
  intro hnone
  have hflatten := flatten_wrap budget ws
  rw [hnone, List.flatten_nil] at hflatten
  exact h hflatten.symm

theorem words_spaced_of_mem_wrap {budget : Nat} {text : List Char} {line : List (List Char)}
    (h : line ∈ wrap budget (words text)) : words (spaced line) = line :=
  words_spaced (fun _ hw => isWord_of_mem_words (mem_words_of_mem_wrap h hw))

end Comment

end JavaSource
