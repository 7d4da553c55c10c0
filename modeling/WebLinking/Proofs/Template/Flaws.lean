import WebLinking.Proofs.Template.Reading

/-!
# Where reading stops

A scan that fails does so at one character, and what it knows of the text before this
character places the flaw: either everything before it is accepted, or the flaw lies within
an expression and everything before that is accepted. What follows the character has not been
looked at. So no continuation mends a pattern, unless all that it lacks is a closing brace.
-/

namespace WebLinking

namespace TemplateFlaw

/-- The characters that a flaw is found at. -/
def Marks : TemplateFlaw → Char → Prop
  | .unmatchedClose, c => c = '}'
  | .reservedOperator symbol, c => c = symbol ∧ symbol ∈ Operator.futureSymbols
  | _, c => c = '{'

/-- A flaw is found behind the brace that opens its expression, and not at the brace. -/
def isInner : TemplateFlaw → Bool
  | .nestedOpen | .reservedOperator _ => true
  | _ => false

/-- A flaw of a pattern is found at a position. -/
structure IsAt (flaw : TemplateFlaw) (p : Text) (i : Nat) : Prop where
  /-- The pattern has a character there, and it is one of those that the flaw is found at. -/
  marked : ∃ h : i < p.length, flaw.Marks p[i]
  /-- What stands before the position is accepted, unless the flaw lies within an expression. -/
  outer : flaw.isInner = false → ∃ t, Template.parse (p.take i) = .ok t
  /-- What stands before the last brace that opens before the position is accepted, if the flaw
  lies within an expression. -/
  inner : flaw.isInner = true → ∃ before between t,
    p.take i = before ++ '{' :: between ∧ '{' ∉ between ∧ Template.parse before = .ok t

variable {flaw : TemplateFlaw} {before : Text} {c : Char} {t : Template}

private theorem IsAt.of_outer (hc : flaw.Marks c) (houter : flaw.isInner = false)
    (ht : Template.parse before = .ok t) (after : Text) :
    flaw.IsAt (before ++ c :: after) before.length := by
  refine ⟨⟨by simp, by simpa using hc⟩, fun _ => ⟨t, ?_⟩, fun hinner => ?_⟩
  · rwa [List.take_left]
  · rw [houter] at hinner
    cases hinner

private theorem IsAt.of_inner {between : Text} (hc : flaw.Marks c) (hinner : flaw.isInner = true)
    (hbetween : '{' ∉ between) (ht : Template.parse before = .ok t) (after : Text) :
    flaw.IsAt (before ++ '{' :: between ++ c :: after) (before.length + 1 + between.length) := by
  have hlength : before.length + 1 + between.length = (before ++ '{' :: between).length := by
    simp
    omega
  rw [hlength]
  refine ⟨⟨by simp, by simpa using hc⟩, fun houter => ?_, fun _ => ?_⟩
  · rw [hinner] at houter
    cases houter
  · exact ⟨before, between, t, List.take_left, hbetween, ht⟩

end TemplateFlaw

/-- An expression that is malformed is so at its opening brace, or at its operator. -/
theorem Group.read_eq_malformed {position i : Nat} {expression : Text} {flaw : TemplateFlaw}
    (h : read position expression = .error (.malformed flaw i)) :
    (i = position ∧ flaw.isInner = false ∧ flaw.Marks '{') ∨
      ∃ symbol rest, expression = symbol :: rest ∧ flaw = .reservedOperator symbol ∧
        symbol ∈ Operator.futureSymbols ∧ i = position + 1 := by
  cases expression with
  | nil =>
    cases h
    exact Or.inl ⟨rfl, rfl, rfl⟩
  | cons symbol rest =>
    rw [read] at h
    by_cases hfuture : Operator.futureSymbols.contains symbol = true
    · rw [if_pos hfuture] at h
      cases h
      exact Or.inr ⟨symbol, rest, rfl, rfl, List.contains_iff_mem.mp hfuture, rfl⟩
    · rw [if_neg hfuture] at h
      obtain ⟨operator, body⟩ := splitOperator symbol rest
      refine Or.inl ?_
      dsimp only at h
      split at h
      · cases h
        exact ⟨rfl, rfl, rfl⟩
      · obtain ⟨piece, -, hpiece⟩ := exists_mem_of_mapM_eq_error (bind_pure_eq_error_iff.mp h)
        unfold readVariable at hpiece
        split at hpiece
        · cases hpiece
          exact ⟨rfl, rfl, rfl⟩
        · split at hpiece
          · cases hpiece
            exact ⟨rfl, rfl, rfl⟩
          · split at hpiece <;> cases hpiece

namespace Scan

variable {u : Text} {scan : Scan}

/-- What is read so far is accepted if the scan may end. -/
theorem Reads.exists_parse {t : Template} (h : Reads u scan) (hfinish : scan.finish = .ok t) :
    ∃ t, Template.parse u = .ok t := by
  obtain ⟨parts, hparts, rfl⟩ := h.finish hfinish
  exact ⟨_, Template.parse_eq_ok_iff.mpr ⟨parts, hparts, rfl⟩⟩

private theorem exists_of_findIdx?_eq_some {seen : Text} {k : Nat}
    (h : seen.findIdx? (· == '{') = some k) :
    ∃ between more, seen = between ++ '{' :: more ∧ '{' ∉ between ∧ between.length = k := by
  obtain ⟨hk, hbrace, hfirst⟩ := List.findIdx?_eq_some_iff_getElem.mp h
  refine ⟨seen.take k, seen.drop (k + 1), ?_, ?_, List.length_take_of_le (Nat.le_of_lt hk)⟩
  · rw [← eq_of_beq hbrace, List.getElem_cons_drop, List.take_append_drop]
  · intro hmem
    obtain ⟨j, hj, he⟩ := List.mem_take_iff_getElem.mp hmem
    exact hfirst j (by omega) (by rw [he, beq_self_eq_true])

private theorem isAt_of_close {done seen : Text} {nested : Option Nat} {t : Template}
    (ht : Template.parse done = .ok t)
    (hnested : nested = (seen.findIdx? (· == '{')).map (done.length + 1 + ·)) {position i : Nat}
    {segments : List Segment} {flaw : TemplateFlaw}
    (hstep : Scan.step ⟨position, segments, .expression done.length seen.reverse nested⟩ '}' =
      .error (.malformed flaw i)) (rest : Text) :
    flaw.IsAt (done ++ '{' :: seen ++ '}' :: rest) i := by
  cases nested with
  | some place =>
    cases hstep
    obtain ⟨k, hk, rfl⟩ := Option.map_eq_some_iff.mp hnested.symm
    obtain ⟨between, more, rfl, hbetween, rfl⟩ := exists_of_findIdx?_eq_some hk
    have hmarks : TemplateFlaw.nestedOpen.Marks '{' := rfl
    have hinner := TemplateFlaw.IsAt.of_inner hmarks rfl hbetween ht (more ++ '}' :: rest)
    simpa only [List.append_assoc, List.cons_append] using hinner
  | none =>
    have hread := bind_pure_eq_error_iff.mp hstep
    rw [List.reverse_reverse] at hread
    rcases Group.read_eq_malformed hread with
      ⟨rfl, houter, hmarks⟩ | ⟨symbol, more, rfl, rfl, hfuture, rfl⟩
    · have hopen := TemplateFlaw.IsAt.of_outer hmarks houter ht (seen ++ '}' :: rest)
      simpa only [List.append_assoc, List.cons_append] using hopen
    · have hmarks : (TemplateFlaw.reservedOperator symbol).Marks symbol := ⟨rfl, hfuture⟩
      have hsymbol :=
        TemplateFlaw.IsAt.of_inner hmarks rfl List.not_mem_nil ht (more ++ '}' :: rest)
      simpa only [List.append_assoc, List.cons_append, List.nil_append, List.length_nil,
        Nat.add_zero] using hsymbol

/-- A character that a scan cannot read places the flaw, whatever follows it. -/
theorem Reads.isAt_of_step (h : Reads u scan) {c : Char} {flaw : TemplateFlaw} {i : Nat}
    (hstep : scan.step c = .error (.malformed flaw i)) (rest : Text) :
    flaw.IsAt (u ++ c :: rest) i := by
  have hreads := h
  cases h with
  | @literal parts done seen position hparts hlast hopen hclose hposition =>
    obtain ⟨t, ht⟩ := hreads.exists_parse rfl
    by_cases hc : c = '{'
    · subst hc
      cases hstep
    · by_cases hc' : c = '}'
      · subst hc'
        cases hstep
        have hlength : position = (done ++ seen.reverse).length := by simpa using hposition
        have hmarks : TemplateFlaw.unmatchedClose.Marks '}' := rfl
        rw [hlength]
        exact .of_outer hmarks rfl ht rest
      · simp [Scan.step, hc, hc'] at hstep
  | @expression parts done seen position nested hparts hclose hposition hnested =>
    have ht := Template.parse_eq_ok_iff.mpr ⟨parts, hparts, rfl⟩
    by_cases hc : c = '}'
    · subst hc
      rw [← List.reverse_reverse seen] at hstep
      exact isAt_of_close ht hnested hstep rest
    · by_cases hc' : c = '{' <;> simp [Scan.step, hc, hc'] at hstep

/-- A scan that may not end has an open expression behind an accepted text. -/
theorem Reads.isAt_of_finish (h : Reads u scan) {e : ReadError} (hfinish : scan.finish = .error e) :
    ∃ i, e = .malformed .unclosedOpen i ∧ TemplateFlaw.unclosedOpen.IsAt u i := by
  cases h with
  | literal => cases hfinish
  | @expression parts done seen position nested hparts hclose hposition hnested =>
    cases hfinish
    have ht := Template.parse_eq_ok_iff.mpr ⟨parts, hparts, rfl⟩
    have hmarks : TemplateFlaw.unclosedOpen.Marks '{' := rfl
    exact ⟨done.length, rfl, .of_outer hmarks rfl ht seen.reverse⟩

end Scan

namespace Template

/-- A pattern that is not accepted has a bad name or a flaw at a position, and what stands before
is accepted. -/
theorem parse_error_located {p : Text} {fault : Fault} (h : parse p = .error fault) :
    ∃ e : ReadError, fault = e.toFault p ∧ (∀ flaw i, e = .malformed flaw i → flaw.IsAt p i) ∧
      ((∀ i, e ≠ .malformed .unclosedOpen i) →
        ∀ s, parse (p ++ s) = .error (e.toFault (p ++ s))) := by
  unfold parse at h
  cases hread : read p with
  | ok t =>
    rw [hread] at h
    cases h
  | error e =>
    rw [hread] at h
    cases h
    refine ⟨e, rfl, ?_⟩
    rcases bind_eq_error_iff.mp hread with hrun | ⟨scan, hrun, hfinish⟩
    · -- The scan stopped, and it stops at the same character of every longer text.
      obtain ⟨before, c, after, scan, rfl, hbefore, hstep⟩ := exists_of_foldlM_eq_error hrun
      refine ⟨?_, fun _ s => ?_⟩
      · rintro flaw i rfl
        exact (Scan.Reads.start.run hbefore).isAt_of_step hstep after
      · have hlonger : read (before ++ c :: after ++ s) = .error e := by
          rw [read, Scan.run_append, hrun]
          rfl
        unfold parse
        rw [hlonger]
        rfl
    · obtain ⟨i, rfl, hi⟩ := (Scan.Reads.start.run hrun).isAt_of_finish hfinish
      refine ⟨?_, fun hne => absurd rfl (hne i)⟩
      rintro flaw j he
      cases he
      exact hi

/-- A brace that opens within an open expression, behind an expression that is closed. -/
theorem parse_error_located_nested :
    parse "/a\x7bb\x7d/\x7bc\x7bd\x7d".toList =
        .error (.malformedTemplate "/a\x7bb\x7d/\x7bc\x7bd\x7d".toList .nestedOpen 8) ∧
      TemplateFlaw.nestedOpen.IsAt "/a\x7bb\x7d/\x7bc\x7bd\x7d".toList 8 ∧
      ∀ s, parse ("/a\x7bb\x7d/\x7bc\x7bd\x7d".toList ++ s) =
        .error (.malformedTemplate ("/a\x7bb\x7d/\x7bc\x7bd\x7d".toList ++ s) .nestedOpen 8) := by
  have hparse : parse "/a\x7bb\x7d/\x7bc\x7bd\x7d".toList =
      .error (.malformedTemplate "/a\x7bb\x7d/\x7bc\x7bd\x7d".toList .nestedOpen 8) := rfl
  obtain ⟨e, he, hat, hfinal⟩ := parse_error_located hparse
  cases e with
  | malformed flaw i =>
    cases he
    exact ⟨hparse, hat _ _ rfl, hfinal fun i h => by cases h⟩
  | badName name => cases he

end Template

end WebLinking
