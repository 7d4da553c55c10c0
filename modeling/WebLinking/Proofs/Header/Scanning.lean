import WebLinking.Proofs.Header.Splitting

/-!
# Cutting a header in one pass

A header is cut from left to right, with the complete pieces and the open one at hand and with
three marks that say where the scan is. The marks stand for a zone, so the pass gives the pieces
of the recursion. It loses nothing but the delimiters, and where a first part leaves it outside,
what follows is cut as it would be by itself.
-/

namespace WebLinking.Header

/-- A scan that cuts a text as it goes. -/
structure Scan where
  /-- The pieces that are complete. -/
  pieces : List Text
  /-- What there is of the open piece. -/
  piece : Text
  /-- A quotation is open. -/
  isQuoted : Bool
  /-- A backslash inside a quotation has just been read. -/
  isEscaped : Bool
  /-- A bracket is open. -/
  isBracketed : Bool
  deriving DecidableEq

namespace Scan

/-- The scan with one more character in its open piece. -/
def push (s : Scan) (c : Char) : Scan := { s with piece := s.piece ++ [c] }

/-- Reads one more character. Of the conditions the first that holds decides. -/
def step (delimiter : Char) (s : Scan) (c : Char) : Scan :=
  if s.isEscaped then { s.push c with isEscaped := false }
  else if s.isQuoted ∧ c = '\\' then { s.push c with isEscaped := true }
  else if c = '"' ∧ ¬s.isBracketed then { s.push c with isQuoted := !s.isQuoted }
  else if c = '<' ∧ ¬s.isQuoted then { s.push c with isBracketed := true }
  else if c = '>' ∧ ¬s.isQuoted then { s.push c with isBracketed := false }
  else if c = delimiter ∧ ¬s.isQuoted ∧ ¬s.isBracketed then
    { s with pieces := s.pieces ++ [s.piece], piece := [] }
  else s.push c

/-- A scan of which nothing is told but the zone and the pieces. -/
def within (zone : Zone) (pieces : List Text) (piece : Text) : Scan where
  pieces := pieces
  piece := piece
  isQuoted := zone = .quoted ∨ zone = .escaped
  isEscaped := zone = .escaped
  isBracketed := zone = .bracketed

/-- Scans a text from its beginning. -/
def run (delimiter : Char) (t : Text) : Scan := t.foldl (step delimiter) (within .outside [] [])

/-- All pieces, the open one included. -/
def all (s : Scan) : List Text := s.pieces ++ [s.piece]

end Scan

variable {d : Char} {zone : Zone}

/-- The delimiters of headers mean nothing else. -/
theorem next_of_delimiter (hd : d = ',' ∨ d = ';') : Zone.outside.next d = .outside := by
  rcases hd with rfl | rfl <;> rfl

namespace Scan

/-- A character goes into the open piece, unless it is a delimiter outside, which completes the
piece. -/
theorem step_within (hd : d = ',' ∨ d = ';') (zone : Zone) (pieces : List Text) (piece : Text)
    (c : Char) :
    step d (within zone pieces piece) c =
      if zone = .outside ∧ c = d then within .outside (pieces ++ [piece]) []
      else within (zone.next c) pieces (piece ++ [c]) := by
  cases zone with
  | outside =>
    by_cases hquote : c = '"'
    · rcases hd with rfl | rfl <;> simp [step, within, push, Zone.next, hquote]
    by_cases hopen : c = '<'
    · rcases hd with rfl | rfl <;> simp [step, within, push, Zone.next, hopen]
    by_cases hclose : c = '>'
    · rcases hd with rfl | rfl <;> simp [step, within, push, Zone.next, hclose]
    by_cases hcut : c = d
    · subst hcut
      simp [step, within, hquote, hopen, hclose]
    · simp [step, within, push, Zone.next, hquote, hopen, hclose, hcut]
  | quoted =>
    by_cases hescape : c = '\\'
    · simp [step, within, push, Zone.next, hescape]
    by_cases hquote : c = '"' <;> simp [step, within, push, Zone.next, hescape, hquote]
  | escaped => simp [step, within, push, Zone.next]
  | bracketed =>
    by_cases hclose : c = '>'
    · simp [step, within, push, Zone.next, hclose]
    by_cases hopen : c = '<' <;> simp [step, within, push, Zone.next, hopen, hclose]

/-- A scan that goes on from a zone adds the pieces of the text, with the open piece before the
first. -/
theorem exists_foldl_step (hd : d = ',' ∨ d = ';') (t : Text) (zone : Zone) (pieces : List Text)
    (piece : Text) :
    ∃ pieces' piece', t.foldl (step d) (within zone pieces piece) =
        within (zone.after t) pieces' piece' ∧
      pieces' ++ [piece'] = pieces ++ glue [piece] (splitFrom d zone t) := by
  induction t generalizing zone pieces piece with
  | nil => exact ⟨pieces, piece, rfl, by simp [splitFrom, glue]⟩
  | cons c rest ih =>
    rw [List.foldl_cons, step_within hd, splitFrom, Zone.after_cons]
    by_cases hcut : zone = .outside ∧ c = d
    · obtain ⟨rfl, rfl⟩ := hcut
      obtain ⟨pieces', piece', hrun, hall⟩ := ih .outside (pieces ++ [piece]) []
      obtain ⟨first, more, hsplit⟩ := List.exists_cons_of_ne_nil (splitFrom_ne_nil c .outside rest)
      refine ⟨pieces', piece', ?_, ?_⟩
      · rw [if_pos ⟨rfl, rfl⟩, hrun, next_of_delimiter hd]
      · rw [hall, hsplit]
        simp [glue]
    · obtain ⟨pieces', piece', hrun, hall⟩ := ih (zone.next c) pieces (piece ++ [c])
      obtain ⟨first, more, hsplit⟩ :=
        List.exists_cons_of_ne_nil (splitFrom_ne_nil d (zone.next c) rest)
      refine ⟨pieces', piece', ?_, ?_⟩
      · rw [if_neg hcut, hrun]
      · rw [hall, hsplit, if_neg (by simpa using hcut)]
        simp [glue, extend]

/-- The pass gives the pieces of a text. -/
theorem all_run (hd : d = ',' ∨ d = ';') (t : Text) : (run d t).all = split d t := by
  obtain ⟨pieces, piece, hrun, hall⟩ := exists_foldl_step hd t .outside [] []
  obtain ⟨first, more, hsplit⟩ := List.exists_cons_of_ne_nil (splitFrom_ne_nil d .outside t)
  rw [run, hrun, all, split, hsplit]
  rw [hsplit] at hall
  exact hall

/-- The pass ends outside if no quotation and no bracket is open. -/
theorem after_eq_outside_iff (hd : d = ',' ∨ d = ';') (t : Text) :
    Zone.outside.after t = .outside ↔
      (run d t).isQuoted = false ∧ (run d t).isBracketed = false := by
  obtain ⟨pieces, piece, hrun, -⟩ := exists_foldl_step hd t .outside [] []
  rw [run, hrun]
  cases Zone.outside.after t <;> simp [within]

end Scan

/-- Joining the pieces of a text gives the text back, wherever the scan begins. -/
theorem joinWith_splitFrom (d : Char) (zone : Zone) (t : Text) :
    Text.joinWith [d] (splitFrom d zone t) = t := by
  induction t generalizing zone with
  | nil => rfl
  | cons c rest ih =>
    rw [splitFrom]
    by_cases hcut : zone = .outside ∧ c = d
    · obtain ⟨rfl, rfl⟩ := hcut
      obtain ⟨first, more, hsplit⟩ := List.exists_cons_of_ne_nil (splitFrom_ne_nil c .outside rest)
      have hrest := ih .outside
      rw [hsplit, Text.joinWith_cons] at hrest
      rw [if_pos (by simp), hsplit, Text.joinWith_cons, List.flatMap_cons]
      simpa using hrest
    · obtain ⟨first, more, hsplit⟩ :=
        List.exists_cons_of_ne_nil (splitFrom_ne_nil d (zone.next c) rest)
      have hrest := ih (zone.next c)
      rw [hsplit, Text.joinWith_cons] at hrest
      rw [if_neg (by simpa using hcut), hsplit, extend, Text.joinWith_cons, List.cons_append, hrest]

/-- Glueing puts together the last piece of the first text and the first one of the second. -/
theorem glue_concat (pieces : List Text) (last first : Text) (more : List Text) :
    glue (pieces ++ [last]) (first :: more) = pieces ++ (last ++ first) :: more := by
  induction pieces with
  | nil => rfl
  | cons piece pieces ih =>
    have hne : pieces ++ [last] ≠ [] := List.append_ne_nil_of_right_ne_nil pieces (by simp)
    obtain ⟨next, rest, hpieces⟩ := List.exists_cons_of_ne_nil hne
    rw [List.cons_append, List.cons_append, ← ih, hpieces]
    rfl

/-- Cutting loses nothing and composes at a delimiter, and without one, wherever nothing is left
open. -/
theorem split_composes (hd : d = ',' ∨ d = ';') (a b : Text) :
    (Scan.run d a).all = split d a ∧ Text.joinWith [d] (split d a) = a ∧
      ((Scan.run d a).isQuoted = false → (Scan.run d a).isBracketed = false →
        split d (a ++ d :: b) = split d a ++ split d b ∧
        ∃ pieces last first more, split d a = pieces ++ [last] ∧ split d b = first :: more ∧
          split d (a ++ b) = pieces ++ (last ++ first) :: more) := by
  refine ⟨Scan.all_run hd a, joinWith_splitFrom d .outside a, fun hquoted hbracketed => ?_⟩
  have hafter := (Scan.after_eq_outside_iff hd a).mpr ⟨hquoted, hbracketed⟩
  have happend : ∀ t, split d (a ++ t) = glue (split d a) (split d t) := by
    intro t
    rw [split, splitFrom_append (next_of_delimiter hd), hafter]
    rfl
  obtain ⟨pieces, last, ha⟩ : ∃ pieces last, split d a = pieces ++ [last] :=
    ⟨_, _, (List.dropLast_concat_getLast (splitFrom_ne_nil d .outside a)).symm⟩
  obtain ⟨first, more, hb⟩ := List.exists_cons_of_ne_nil (splitFrom_ne_nil d .outside b)
  refine ⟨?_, pieces, last, first, more, ha, hb, ?_⟩
  · have hcut : split d (d :: b) = [] :: split d b := by simp [split, splitFrom]
    rw [happend, hcut, ha, glue_concat, List.append_nil, List.append_assoc, List.singleton_append]
  · rw [happend, ha, show split d b = first :: more from hb, glue_concat]

/-- A text with delimiters in brackets and quotations and a stray bracket, before one whose
quotation stays open. -/
theorem split_composes_marks :
    ∃ (a b : Text) (pieces : List Text) (last first : Text) (more : List Text),
      a = "</a,b>;title=\"x\\\",y\",>z".toList ∧ b = "<c>,\"p,q".toList ∧
      (Scan.run ',' a).isQuoted = false ∧ (Scan.run ',' a).isBracketed = false ∧
      split ',' a = pieces ++ [last] ∧ split ',' b = first :: more ∧
      Text.joinWith [','] (split ',' a) = a ∧
      split ',' (a ++ ',' :: b) =
        ["</a,b>;title=\"x\\\",y\"", ">z", "<c>", "\"p,q"].map String.toList ∧
      split ',' (a ++ b) = pieces ++ (last ++ first) :: more ∧
      pieces ++ (last ++ first) :: more =
        ["</a,b>;title=\"x\\\",y\"", ">z<c>", "\"p,q"].map String.toList := by
  let a : Text := "</a,b>;title=\"x\\\",y\",>z".toList
  let b : Text := "<c>,\"p,q".toList
  have hquoted : (Scan.run ',' a).isQuoted = false := by decide +kernel
  have hbracketed : (Scan.run ',' a).isBracketed = false := by decide +kernel
  obtain ⟨-, hjoin, houtside⟩ := split_composes (Or.inl rfl) a b
  obtain ⟨hcut, pieces, last, first, more, ha, hb, hglue⟩ := houtside hquoted hbracketed
  refine ⟨a, b, pieces, last, first, more, rfl, rfl, hquoted, hbracketed, ha, hb, hjoin, ?_, hglue,
    hglue.symm.trans ?_⟩
  · rw [hcut]
    decide +kernel
  · decide +kernel

end WebLinking.Header
