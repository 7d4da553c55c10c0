import WebLinking.Link.Header
import WebLinking.Proofs.Text.Splitting

/-!
# Cutting outside of quotation marks and brackets

Where a scan is decides what a character of a header means, so a text is cut by what comes
before it. A text that is made of two is cut as each of them, the second from where the
scan of the first ends, and the two pieces at the joint are one. Pieces that a scan leaves
whole, and after which it is outside again, are recovered from their joined text.
-/

namespace WebLinking.Header

/-- Where a scan is after a text. -/
def Zone.after (zone : Zone) (t : Text) : Zone := t.foldl Zone.next zone

@[simp] theorem Zone.after_nil (zone : Zone) : zone.after [] = zone := rfl

@[simp] theorem Zone.after_cons (zone : Zone) (c : Char) (t : Text) :
    zone.after (c :: t) = (zone.next c).after t := rfl

theorem Zone.after_append (zone : Zone) (s t : Text) :
    zone.after (s ++ t) = (zone.after s).after t :=
  List.foldl_append

/-- The pieces of a text and those of the text that follows it, with the two in the middle in
one. -/
def glue : List Text → List Text → List Text
  | [], more => more
  | [piece], [] => [piece]
  | [piece], next :: more => (piece ++ next) :: more
  | piece :: pieces, more => piece :: glue pieces more

private theorem glue_cons (piece : Text) {pieces : List Text} (hne : pieces ≠ [])
    (more : List Text) : glue (piece :: pieces) more = piece :: glue pieces more := by
  obtain ⟨next, pieces, rfl⟩ := List.exists_cons_of_ne_nil hne
  rfl

private theorem glue_extend (c : Char) {pieces : List Text} (hne : pieces ≠ [])
    (more : List Text) : glue (extend c pieces) more = extend c (glue pieces more) := by
  obtain ⟨piece, pieces, rfl⟩ := List.exists_cons_of_ne_nil hne
  cases pieces with
  | nil => cases more <;> rfl
  | cons next pieces => rfl

variable {d : Char} {zone zone' zone'' : Zone} {s t : Text} {pieces : List Text}

/-- A text has at least one piece. -/
theorem splitFrom_ne_nil (d : Char) (zone : Zone) (t : Text) : splitFrom d zone t ≠ [] := by
  cases t with
  | nil => exact List.cons_ne_nil _ _
  | cons c rest =>
    rw [splitFrom]
    split
    · exact List.cons_ne_nil _ _
    · unfold extend
      split <;> exact List.cons_ne_nil _ _

/-- A text that is made of two is cut as each of them, up to the piece at the joint. -/
theorem splitFrom_append (hd : Zone.outside.next d = .outside) (zone : Zone) (s t : Text) :
    splitFrom d zone (s ++ t) = glue (splitFrom d zone s) (splitFrom d (zone.after s) t) := by
  induction s generalizing zone with
  | nil =>
    obtain ⟨piece, more, hpieces⟩ := List.exists_cons_of_ne_nil (splitFrom_ne_nil d zone t)
    simp [splitFrom, glue, hpieces]
  | cons c rest ih =>
    rw [List.cons_append, splitFrom, splitFrom, Zone.after_cons]
    by_cases hcut : zone = .outside ∧ c = d
    · obtain ⟨rfl, rfl⟩ := hcut
      simp only [decide_true, Bool.and_self, ite_true]
      rw [ih, glue_cons _ (splitFrom_ne_nil _ _ _), hd]
    · have hcut : (decide (zone = .outside) && decide (c = d)) = false := by simpa using hcut
      simp only [hcut, Bool.false_eq_true, ite_false]
      rw [ih, glue_extend _ (splitFrom_ne_nil _ _ _)]

/-- A scan gets from one zone to another through a text without cutting it. -/
structure Passes (d : Char) (zone : Zone) (t : Text) (zone' : Zone) : Prop where
  /-- The text is one piece. -/
  whole : splitFrom d zone t = [t]
  /-- The scan ends in the second zone. -/
  after : zone.after t = zone'

namespace Passes

/-- A scan stays where it is in the empty text. -/
theorem nil : Passes d zone [] zone := ⟨rfl, rfl⟩

/-- A text may begin with any character that is no delimiter in its place. -/
theorem cons {c : Char} (hc : zone = .outside → c ≠ d) (ht : Passes d (zone.next c) t zone') :
    Passes d zone (c :: t) zone' := by
  refine ⟨?_, ht.after⟩
  have hcut : (decide (zone = .outside) && decide (c = d)) = false := by simpa using hc
  simp only [splitFrom, hcut, ht.whole, extend, Bool.false_eq_true, ite_false]

/-- Texts that are left whole make one that is left whole. -/
theorem append (hd : Zone.outside.next d = .outside) (hs : Passes d zone s zone')
    (ht : Passes d zone' t zone'') : Passes d zone (s ++ t) zone'' := by
  refine ⟨?_, ?_⟩
  · rw [splitFrom_append hd, hs.whole, hs.after, ht.whole]
    rfl
  · rw [Zone.after_append, hs.after, ht.after]

/-- Texts that a scan returns from make one that it returns from. -/
theorem flatMap {α : Type} {f : α → Text} {xs : List α} (hd : Zone.outside.next d = .outside)
    (h : ∀ x ∈ xs, Passes d zone (f x) zone) : Passes d zone (xs.flatMap f) zone := by
  induction xs with
  | nil => exact .nil
  | cons x xs ih =>
    obtain ⟨hx, hxs⟩ := List.forall_mem_cons.mp h
    rw [List.flatMap_cons]
    exact hx.append hd (ih hxs)

/-- Outside, a text without the delimiter, quotation marks and brackets is left whole. -/
theorem of_plain (h : ∀ c ∈ t, c ≠ d ∧ c ≠ '"' ∧ c ≠ '<') : Passes d .outside t .outside := by
  induction t with
  | nil => exact .nil
  | cons c rest ih =>
    obtain ⟨⟨hdelimiter, hquote, hbracket⟩, hrest⟩ := List.forall_mem_cons.mp h
    refine .cons (fun _ => hdelimiter) ?_
    rw [Zone.next, if_neg hquote, if_neg hbracket]
    exact ih hrest

/-- A text between angle brackets is left whole if it has no closing bracket. -/
theorem of_brackets (hd : d ≠ '<') (ht : '>' ∉ t) :
    Passes d .outside ('<' :: t ++ ['>']) .outside := by
  have hbody : Passes d .bracketed (t ++ ['>']) .outside := by
    induction t with
    | nil => exact .cons (by simp) .nil
    | cons c rest ih =>
      rw [List.mem_cons, not_or] at ht
      refine .cons (by simp) ?_
      rw [Zone.next, if_neg (Ne.symm ht.1)]
      exact ih ht.2
  exact .cons (fun _ => hd.symm) hbody

end Passes

/-- Pieces that are left whole and stand each after a delimiter are recovered; nothing stands
before the first delimiter. -/
theorem split_flatMap (hd : Zone.outside.next d = .outside)
    (h : ∀ piece ∈ pieces, Passes d .outside piece .outside) :
    split d (pieces.flatMap ([d] ++ ·)) = [] :: pieces := by
  induction pieces with
  | nil => rfl
  | cons piece pieces ih =>
    obtain ⟨hpiece, hpieces⟩ := List.forall_mem_cons.mp h
    have hrest := ih hpieces
    rw [split] at hrest ⊢
    simp only [List.flatMap_cons, List.cons_append, List.nil_append, splitFrom, decide_true,
      Bool.and_self, ite_true] at hrest ⊢
    rw [splitFrom_append hd, hpiece.whole, hpiece.after, hrest, glue, List.append_nil]

end WebLinking.Header
