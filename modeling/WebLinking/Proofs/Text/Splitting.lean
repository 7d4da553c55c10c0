import Mathlib.Data.List.TakeWhile
import WebLinking.Text.Basic

/-!
# Cutting and joining

Cutting at a delimiter and joining with it undo each other: joining the pieces of a text
gives the text back, and joined pieces that are free of the delimiter are the pieces that
cutting gives. Cutting once divides a text at its first delimiter.
-/

namespace WebLinking.Text

/-- The own recursion of cutting at a class is the one of the standard library. -/
theorem splitWhere_eq (cut : Char → Bool) (t : Text) : splitWhere cut t = t.splitOnP cut := by
  induction t with
  | nil => rfl
  | cons c rest ih =>
    rw [splitWhere, List.splitOnP_cons_eq_if_modifyHead, ih]
    split
    · rfl
    · cases h : rest.splitOnP cut with
      | nil => exact absurd h (List.splitOnP_ne_nil cut rest)
      | cons piece more => rfl

/-- No piece has a character of the class that a text is cut at. -/
theorem not_cut_of_mem_splitWhere {cut : Char → Bool} {t piece : Text}
    (h : piece ∈ splitWhere cut t) : ∀ c ∈ piece, cut c = false := by
  induction t generalizing piece with
  | nil =>
    rw [splitWhere, List.mem_singleton] at h
    simp [h]
  | cons d rest ih =>
    rw [splitWhere] at h
    by_cases hd : cut d = true
    · rw [if_pos hd] at h
      rcases List.mem_cons.mp h with rfl | h
      · exact fun c hc => absurd hc List.not_mem_nil
      · exact ih h
    · rw [if_neg hd] at h
      have hfalse : cut d = false := Bool.eq_false_iff.mpr hd
      cases hrest : splitWhere cut rest with
      | nil =>
        rw [hrest] at h
        obtain rfl := List.mem_singleton.mp h
        exact List.forall_mem_singleton.mpr hfalse
      | cons first more =>
        rw [hrest] at h ih
        rcases List.mem_cons.mp h with rfl | h
        · exact List.forall_mem_cons.mpr ⟨hfalse, ih List.mem_cons_self⟩
        · exact ih (List.mem_cons_of_mem first h)

/-- Cutting at one delimiter is the one of the standard library. -/
theorem splitOn_eq (delimiter : Char) (t : Text) : splitOn delimiter t = List.splitOn delimiter t :=
  splitWhere_eq _ t

/-- Every text has at least one piece. -/
theorem splitOn_ne_nil (delimiter : Char) (t : Text) : splitOn delimiter t ≠ [] := by
  rw [splitOn_eq]
  exact List.splitOn_ne_nil delimiter t

/-- Joining the pieces of a text gives the text back. -/
theorem joinWith_splitOn (delimiter : Char) (t : Text) :
    joinWith [delimiter] (splitOn delimiter t) = t := by
  rw [joinWith, splitOn_eq, List.intercalate_splitOn]

/-- The pieces of a text hold all its characters but the delimiters. -/
theorem flatten_splitOn (delimiter : Char) (t : Text) :
    (splitOn delimiter t).flatten = t.filter (· != delimiter) := by
  induction t with
  | nil => rfl
  | cons c rest ih =>
    rw [splitOn] at ih ⊢
    rw [splitWhere, List.filter_cons, ← ih]
    by_cases hc : c = delimiter
    · simp [hc]
    · rw [if_neg (by simpa using hc), if_pos (by simpa using hc)]
      cases hrest : splitWhere (· == delimiter) rest with
      | nil => exact absurd hrest (splitOn_ne_nil delimiter rest)
      | cons piece more => rfl

/-- Pieces that are free of the delimiter are recovered from their joined text. -/
theorem splitOn_joinWith {delimiter : Char} {pieces : List Text} (hne : pieces ≠ [])
    (hfree : ∀ piece ∈ pieces, delimiter ∉ piece) :
    splitOn delimiter (joinWith [delimiter] pieces) = pieces := by
  rw [joinWith, splitOn_eq, List.splitOn_intercalate delimiter hfree hne]

/-- Joined pieces are the first piece and then each other piece after a separator. -/
theorem joinWith_cons (separator piece : Text) (more : List Text) :
    joinWith separator (piece :: more) = piece ++ more.flatMap (separator ++ ·) := by
  induction more generalizing piece with
  | nil => rw [joinWith, List.intercalate_singleton, List.flatMap_nil, List.append_nil]
  | cons next more ih =>
    have hnext := ih next
    rw [joinWith] at hnext ⊢
    rw [List.intercalate_cons_cons, hnext, List.flatMap_cons, List.append_assoc,
      List.append_assoc]

/-- Joined pieces have no other characters than the separator and the pieces. -/
theorem mem_joinWith {separator : Text} {pieces : List Text} {c : Char}
    (h : c ∈ joinWith separator pieces) : c ∈ separator ∨ ∃ piece ∈ pieces, c ∈ piece := by
  cases pieces with
  | nil => exact absurd h List.not_mem_nil
  | cons piece more =>
    rw [joinWith_cons] at h
    rcases List.mem_append.mp h with h | h
    · exact Or.inr ⟨piece, List.mem_cons_self, h⟩
    · obtain ⟨other, hother, h⟩ := List.mem_flatMap.mp h
      rcases List.mem_append.mp h with h | h
      · exact Or.inl h
      · exact Or.inr ⟨other, List.mem_cons_of_mem piece hother, h⟩

/-- A text with a delimiter is divided at the first one. -/
theorem eq_of_cutAt {delimiter : Char} {t : Text} (h : delimiter ∈ t) :
    t = (cutAt delimiter t).1 ++ delimiter :: (cutAt delimiter t).2 := by
  have hdrop : t.dropWhile (· != delimiter) ≠ [] := by
    intro hnil
    have := List.dropWhile_eq_nil_iff.mp hnil delimiter h
    simp at this
  obtain ⟨c, rest, hc⟩ := List.exists_cons_of_ne_nil hdrop
  have hhead := List.head_dropWhile_not (· != delimiter) hdrop
  simp only [hc, List.head_cons, bne_eq_false_iff_eq] at hhead
  calc
    t = t.takeWhile (· != delimiter) ++ t.dropWhile (· != delimiter) :=
      List.takeWhile_append_dropWhile.symm
    _ = (cutAt delimiter t).1 ++ delimiter :: (cutAt delimiter t).2 := by
      simp only [cutAt, hc, hhead, List.drop_one, List.tail_cons]

/-- The part before the delimiter is found where it was put. -/
theorem cutAt_append {delimiter : Char} {before : Text} (h : delimiter ∉ before) (after : Text) :
    cutAt delimiter (before ++ delimiter :: after) = (before, after) := by
  have hall : ∀ c ∈ before, (c != delimiter) = true := by
    intro c hc
    exact bne_iff_ne.mpr fun he => h (he ▸ hc)
  simp [cutAt, List.takeWhile_append_of_pos hall, List.dropWhile_append_of_pos hall]

/-- A text without the delimiter stands before it as a whole. -/
theorem cutAt_of_not_mem {delimiter : Char} {t : Text} (h : delimiter ∉ t) :
    cutAt delimiter t = (t, []) := by
  have hall : ∀ c ∈ t, (c != delimiter) = true := by
    intro c hc
    exact bne_iff_ne.mpr fun he => h (he ▸ hc)
  simp [cutAt, List.takeWhile_eq_self_iff.mpr hall, List.dropWhile_eq_nil_iff.mpr hall]

/-- Joining rows that are joined themselves joins all of their pieces, if no row is empty. -/
theorem joinWith_flatten {separator : Text} {rows : List (List Text)} (hne : [] ∉ rows) :
    joinWith separator (rows.map (joinWith separator)) = joinWith separator rows.flatten := by
  have hmore : ∀ more : List (List Text), [] ∉ more →
      (more.map (joinWith separator)).flatMap (separator ++ ·) =
        more.flatten.flatMap (separator ++ ·) := by
    intro more hmore
    induction more with
    | nil => rfl
    | cons row more ih =>
      rw [List.mem_cons, not_or] at hmore
      obtain ⟨piece, row, rfl⟩ := List.exists_cons_of_ne_nil (Ne.symm hmore.1)
      simp only [List.map_cons, List.flatMap_cons, ih hmore.2, joinWith_cons, List.flatten_cons,
        List.flatMap_append, List.append_assoc]
  cases rows with
  | nil => rfl
  | cons row more =>
    rw [List.mem_cons, not_or] at hne
    obtain ⟨piece, row, rfl⟩ := List.exists_cons_of_ne_nil (Ne.symm hne.1)
    rw [List.map_cons, joinWith_cons, hmore more hne.2, List.flatten_cons, List.cons_append,
      joinWith_cons, joinWith_cons, List.flatMap_append, List.append_assoc]

end WebLinking.Text
