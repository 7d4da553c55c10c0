import Mathlib.Data.List.Basic
import WebLinking.Proofs.Number.Numeral
import WebLinking.Proofs.Text.Blank

/-!
# Two ways of reading integers

A literal and a form field are read by different rules. Digits of other scripts are for
literals only; fractions of zeros, stray underscores and a sign after leading zeros are for
form fields only. A text that is an integer by both rules is the same integer by both.
-/

namespace WebLinking

namespace Text

/-- White space has no value as a digit. -/
theorem digitValue?_of_isWhiteSpace {c : Char} (h : isWhiteSpace c = true) :
    digitValue? c = none := by
  have hzeros : ∀ first ∈ zeros, first + 10 ≤ 0x85 ∨ (0xA0 < first ∧ first + 10 ≤ 0x1680) ∨
      (0x1680 < first ∧ first + 10 ≤ 0x2000) ∨ 0x3000 < first := by decide
  simp only [isWhiteSpace, Bool.or_eq_true, Bool.and_eq_true, decide_eq_true_eq, beq_iff_eq] at h
  unfold digitValue?
  split
  · rename_i hlow
    refine if_neg fun hdigit => ?_
    have hlow : 48 ≤ c.toNat := (Char.isDigit_iff_toNat.mp hdigit).1
    have hhigh : c.toNat ≤ 57 := (Char.isDigit_iff_toNat.mp hdigit).2
    omega
  · rw [Option.map_eq_none_iff, List.find?_eq_none]
    intro first hfirst hrange
    rw [Bool.and_eq_true, decide_eq_true_eq, decide_eq_true_eq] at hrange
    have := hzeros first hfirst
    omega

end Text

namespace Decimal

variable {t : Text} {c : Char} {i j : Int}

/-- A character of the run that a literal begins with is not white space. -/
theorem not_isWhiteSpace_of_isLiteralChar (h : isLiteralChar c = true) :
    Text.isWhiteSpace c = false := by
  rw [Bool.eq_false_iff]
  intro hspace
  rw [isLiteralChar, Text.digitValue?_of_isWhiteSpace hspace, Option.isSome_none, Bool.false_or,
    beq_iff_eq] at h
  subst h
  revert hspace
  decide

/-- The sign of a numeral is a mark before it or nothing. -/
theorem exists_splitSign (t : Text) : ∃ sign, (sign = [] ∨ sign = ['+'] ∨ sign = ['-']) ∧
    t = sign ++ (splitSign t).2 ∧ (splitSign t).1 = (sign == ['-']) := by
  unfold splitSign
  split
  · exact ⟨['-'], by simp⟩
  · exact ⟨['+'], by simp⟩
  · exact ⟨[], by simp⟩

/-- A text that is read as a literal is a run of digits with a sign and white space around it. -/
theorem exists_of_ofLiteral (h : ofLiteral t = .value i) :
    ∃ before sign run after, t = before ++ (sign ++ run) ++ after ∧
      (∀ c ∈ before, Text.isWhiteSpace c = true) ∧ (∀ c ∈ after, Text.isWhiteSpace c = true) ∧
      (sign = [] ∨ sign = ['+'] ∨ sign = ['-']) ∧ run ≠ [] ∧
      (∀ c ∈ run, isLiteralChar c = true) ∧
      (digitsFrom 0 (run.filter (· != '_'))).map (signed (sign == ['-'])) = some i := by
  obtain ⟨sign, hsign, ht, hnegative⟩ := exists_splitSign (t.dropWhile Text.isWhiteSpace)
  unfold ofLiteral at h
  generalize splitSign (t.dropWhile Text.isWhiteSpace) = body at h ht hnegative
  obtain ⟨negative, body⟩ := body
  dsimp only at h ht hnegative
  subst hnegative
  split at h
  · cases h
  rename_i hgroups
  split at h
  · cases h
  split at h
  · rename_i hafter
    refine ⟨t.takeWhile Text.isWhiteSpace, sign, body.takeWhile isLiteralChar,
      body.dropWhile isLiteralChar, ?_, fun c hc => List.mem_takeWhile_imp hc, ?_, hsign, ?_,
      fun c hc => List.mem_takeWhile_imp hc, ?_⟩
    · rw [List.append_assoc, List.append_assoc, List.takeWhile_append_dropWhile, ← ht,
        List.takeWhile_append_dropWhile]
    · exact List.all_eq_true.mp hafter
    · intro hempty
      rw [hempty] at hgroups
      exact hgroups rfl
    · rw [Text.flatten_splitOn] at h
      generalize (digitsFrom 0 _).map _ = read at h ⊢
      cases read with
      | none => cases h
      | some k =>
        cases h
        rfl
  · cases h

/-- The sign before a run of digits is set apart from it. -/
theorem splitSign_append {sign run : Text} (hsign : sign = [] ∨ sign = ['+'] ∨ sign = ['-'])
    (hne : run ≠ []) (hrun : ∀ c ∈ run, isLiteralChar c = true) :
    splitSign (sign ++ run) = (sign == ['-'], run) := by
  obtain ⟨c, run, rfl⟩ := List.exists_cons_of_ne_nil hne
  have hc := hrun c List.mem_cons_self
  rcases hsign with rfl | rfl | rfl
  · unfold splitSign
    split
    · rename_i heq
      cases heq
      exact absurd hc (by decide)
    · rename_i heq
      cases heq
      exact absurd hc (by decide)
    · rfl
  · rfl
  · rfl

/-- Zeros and underscores at the front of a run do not change the value of its digits. -/
theorem digitsFrom_dropZerosAfter {last : Char} (hlast : last = '0' ∨ last = '_')
    {run digits : Text} (hrun : ∀ c ∈ run, isLiteralChar c = true)
    (h : dropZerosAfter last run = some digits) : (∀ c ∈ digits, isLiteralChar c = true) ∧
      digitsFrom 0 (digits.filter (· != '_')) = digitsFrom 0 (run.filter (· != '_')) := by
  induction run generalizing last with
  | nil =>
    cases h
    rcases hlast with rfl | rfl <;> exact ⟨by simp [isLiteralChar, Text.digitValue?], rfl⟩
  | cons c rest ih =>
    rw [dropZerosAfter] at h
    split at h
    · rename_i hc
      rw [Bool.or_eq_true, decide_eq_true_eq, decide_eq_true_eq] at hc
      obtain ⟨hdigits, hvalue⟩ := ih hc (fun d hd => hrun d (List.mem_cons_of_mem c hd)) h
      refine ⟨hdigits, hvalue.trans ?_⟩
      rcases hc with rfl | rfl <;> rfl
    · split at h
      · cases h
        exact ⟨hrun, rfl⟩
      · split at h
        · rename_i hc
          exact absurd (hrun c List.mem_cons_self) (by rw [hc]; decide)
        · cases h

/-- Leading zeros do not change the value of a run of digits. -/
theorem digitsFrom_dropZeros {run digits : Text} (hrun : ∀ c ∈ run, isLiteralChar c = true)
    (h : dropZeros run = some digits) : (∀ c ∈ digits, isLiteralChar c = true) ∧
      digitsFrom 0 (digits.filter (· != '_')) = digitsFrom 0 (run.filter (· != '_')) := by
  cases run with
  | nil => cases h
  | cons c rest =>
    rw [dropZeros] at h
    split at h
    · rename_i hc
      subst hc
      have hrest : ∀ d ∈ rest, isLiteralChar d = true :=
        fun d hd => hrun d (List.mem_cons_of_mem _ hd)
      obtain ⟨hdigits, hvalue⟩ := digitsFrom_dropZerosAfter (Or.inl rfl) hrest h
      exact ⟨hdigits, hvalue.trans rfl⟩
    · split at h
      · cases h
        exact ⟨hrun, rfl⟩
      · cases h

/-- A numeral that is read is made of Latin digits, after the sign that is put before it. -/
theorem digitsFrom_of_ofNumeral {negative : Bool} {numeral : Text} (hminus : '-' ∉ numeral)
    (h : ofNumeral (if negative then '-' :: numeral else numeral) = .value i) :
    (∀ c ∈ numeral, c.isDigit = true) ∧
      (digitsFrom 0 numeral).map (signed negative) = some i := by
  have hdigits : ∀ u : Text, (u.head? == some '-') = negative →
      (if (u.head? == some '-') = true then u.drop 1 else u) = numeral → ofNumeral u = .value i →
        (∀ c ∈ numeral, c.isDigit = true) ∧
          (digitsFrom 0 numeral).map (signed negative) = some i := by
    intro u hnegative hnumeral hu
    unfold ofNumeral at hu
    dsimp only at hu
    rw [hnumeral, hnegative] at hu
    split at hu
    · cases hu
    split at hu
    · cases hu
    split at hu
    · cases hu
    rename_i hall
    rw [Bool.or_eq_true, not_or, Bool.not_eq_true', Bool.not_eq_false, List.all_eq_true] at hall
    refine ⟨hall.2, ?_⟩
    generalize (digitsFrom 0 numeral).map _ = read at hu ⊢
    cases read with
    | none => cases hu
    | some k =>
      cases hu
      rfl
  cases negative with
  | true => exact hdigits _ rfl rfl h
  | false =>
    have hhead : (numeral.head? == some '-') = false := by
      rw [beq_eq_false_iff_ne]
      exact fun hhead => hminus (List.mem_of_head? hhead)
    exact hdigits _ hhead (by rw [hhead]; rfl) h

/-- Underscores are dropped all at once or not at all. -/
theorem dropUnderscores_eq (t : Text) :
    dropUnderscores t = t ∨ dropUnderscores t = t.filter (· != '_') := by
  unfold dropUnderscores
  rw [← Text.flatten_splitOn]
  dsimp only
  split
  · exact Or.inl rfl
  · exact Or.inr rfl

/-- A text that is an integer both as a literal and as a form field is one integer. -/
theorem eq_of_ofField_of_ofLiteral (hfield : ofField t = .value i)
    (hliteral : ofLiteral t = .value j) : i = j := by
  obtain ⟨before, sign, run, after, rfl, hbefore, hafter, hsign, hne, hrun, hvalue⟩ :=
    exists_of_ofLiteral hliteral
  have hspace : ∀ c ∈ sign ++ run, Text.isWhiteSpace c = false := by
    intro c hc
    rcases List.mem_append.mp hc with hc | hc
    · rcases hsign with rfl | rfl | rfl
      · cases hc
      · exact List.mem_singleton.mp hc ▸ by decide
      · exact List.mem_singleton.mp hc ▸ by decide
    · exact not_isWhiteSpace_of_isLiteralChar (hrun c hc)
  rw [ofField, Text.strip_append hbefore hafter hspace (by simp [hne]),
    splitSign_append hsign hne hrun] at hfield
  dsimp only at hfield
  split at hfield
  · rename_i digits hdigits
    obtain ⟨hchars, hsame⟩ := digitsFrom_dropZeros hrun hdigits
    have hnot : ∀ c, isLiteralChar c = false → c ∉ digits := by
      intro c hc hmem
      rw [hchars c hmem] at hc
      cases hc
    have hwhole : dropZeroFraction digits = digits := by
      rw [dropZeroFraction, Text.cutAt_of_not_mem (hnot '.' (by decide))]
      rfl
    rw [hwhole] at hfield
    have hminus : '-' ∉ dropUnderscores digits := by
      rcases dropUnderscores_eq digits with heq | heq <;> rw [heq]
      · exact hnot '-' (by decide)
      · exact fun hmem => hnot '-' (by decide) (List.mem_of_mem_filter hmem)
    obtain ⟨hall, hread⟩ := digitsFrom_of_ofNumeral hminus hfield
    have hdropped : dropUnderscores digits = digits.filter (· != '_') := by
      rcases dropUnderscores_eq digits with heq | heq
      · rw [heq] at hall
        rw [heq, List.filter_eq_self.mpr]
        intro c hc
        exact bne_iff_ne.mpr fun he => absurd (hall c hc) (by rw [he]; decide)
      · exact heq
    rw [hdropped, hsame, hvalue] at hread
    exact (Option.some.inj hread).symm
  · cases hfield

end Decimal

end WebLinking
