import Mathlib.Data.List.DropRight
import WebLinking.Proofs.Text.Splitting
import WebLinking.Text.Blank

/-!
# Blanks at the ends of a text and between its words

A text is trimmed if neither its first nor its last character is a blank. A text has a word
if it has a character that is no blank, and a trimmed text of one word is this word.
-/

namespace WebLinking.Text

variable {c d : Char} {t : Text}

/-- A text is stripped of the characters of a class that are put around it. -/
theorem strip_append {drop : Char → Bool} {before after : Text}
    (hbefore : ∀ c ∈ before, drop c = true) (hafter : ∀ c ∈ after, drop c = true)
    (ht : ∀ c ∈ t, drop c = false) (hne : t ≠ []) : strip drop (before ++ t ++ after) = t := by
  have hfront : ∀ s : Text, s ≠ [] → (∀ c ∈ s, drop c = false) → ∀ rest : Text,
      (s ++ rest).dropWhile drop = s ++ rest := by
    intro s hs hall rest
    obtain ⟨c, s, rfl⟩ := List.exists_cons_of_ne_nil hs
    rw [List.cons_append, List.dropWhile_cons_of_neg (by simp [hall c List.mem_cons_self])]
  have hend : t.reverse.dropWhile drop = t.reverse := by
    simpa using hfront t.reverse (by simpa using hne) (by simpa using ht) []
  rw [strip, List.append_assoc, List.dropWhile_append_of_pos hbefore, hfront t hne ht,
    List.reverse_append, List.dropWhile_append_of_pos (by simpa using hafter), hend,
    List.reverse_reverse]

/-- Trimming takes the blanks off the front and then those off the end. -/
theorem trim_eq (t : Text) : t.trim = (t.dropWhile isBlank).rdropWhile isBlank := rfl

/-- A text with no blank at either end is trimmed. -/
theorem trim_eq_self (hhead : ∀ c ∈ t.head?, isBlank c = false)
    (hlast : ∀ c ∈ t.getLast?, isBlank c = false) : t.trim = t := by
  have hfront : t.dropWhile isBlank = t := by
    cases t with
    | nil => rfl
    | cons c rest => simp [hhead c rfl]
  rw [trim_eq, hfront, List.rdropWhile_eq_self_iff]
  intro hne
  simp [hlast _ (List.getLast_mem_getLast? hne)]

/-- What is trimmed does not begin with a blank. -/
theorem not_isBlank_of_mem_head?_trim (h : c ∈ t.trim.head?) : isBlank c = false := by
  obtain ⟨rest, hrest⟩ := List.head?_eq_some_iff.mp h
  obtain ⟨more, hmore⟩ := List.rdropWhile_prefix isBlank (t.dropWhile isBlank)
  rw [← trim_eq, hrest, List.cons_append] at hmore
  have hhead := List.head_dropWhile_not isBlank (hmore ▸ List.cons_ne_nil c (rest ++ more))
  simpa only [← hmore, List.head_cons] using hhead

/-- What is trimmed does not end with a blank. -/
theorem not_isBlank_of_mem_getLast?_trim (h : c ∈ t.trim.getLast?) : isBlank c = false := by
  obtain ⟨hne, rfl⟩ := List.mem_getLast?_eq_getLast h
  exact Bool.eq_false_iff.mpr (List.rdropWhile_last_not isBlank (t.dropWhile isBlank) hne)

/-- Trimming a second time changes nothing. -/
theorem trim_trim (t : Text) : t.trim.trim = t.trim :=
  trim_eq_self (fun _ => not_isBlank_of_mem_head?_trim) fun _ => not_isBlank_of_mem_getLast?_trim

/-- Only a blank text has nothing left when it is trimmed. -/
theorem trim_eq_nil_iff : t.trim = [] ↔ t.isBlankText = true := by
  rw [trim_eq, List.rdropWhile_eq_nil_iff, isBlankText, List.all_eq_true]
  constructor
  · intro h
    have hnil : t.dropWhile isBlank = [] := by
      by_contra hne
      have hblank := h _ (List.head_mem hne)
      rw [List.head_dropWhile_not isBlank hne] at hblank
      cases hblank
    exact List.dropWhile_eq_nil_iff.mp hnil
  · intro h c hc
    exact h c ((List.dropWhile_suffix isBlank).subset hc)

/-- Blanks around a text are trimmed with those of the text. -/
theorem trim_append {before after : Text} (hbefore : before.isBlankText = true)
    (hafter : after.isBlankText = true) (t : Text) : trim (before ++ t ++ after) = trim t := by
  have hbefore := List.all_eq_true.mp hbefore
  have hafter := List.all_eq_true.mp hafter
  rw [trim_eq, trim_eq, List.append_assoc, List.dropWhile_append_of_pos hbefore,
    List.dropWhile_append]
  by_cases hblank : (t.dropWhile isBlank).isEmpty = true
  · rw [if_pos hblank, List.isEmpty_iff.mp hblank, List.dropWhile_eq_nil_iff.mpr hafter]
  · rw [if_neg hblank, List.rdropWhile, List.reverse_append,
      List.dropWhile_append_of_pos (by simpa using hafter), ← List.rdropWhile]

/-- A word is not empty. -/
theorem ne_nil_of_mem_words {word : Text} (h : word ∈ words t) : word ≠ [] := by
  simpa using (List.mem_filter.mp h).2

/-- A word has no blanks. -/
theorem not_isBlank_of_mem_words {word : Text} (h : word ∈ words t) :
    ∀ c ∈ word, isBlank c = false :=
  not_cut_of_mem_splitWhere (List.mem_filter.mp h).1

end WebLinking.Text
