import WebLinking.Proofs.Percent

/-!
# Reserved encoding

Reserved encoding reads a text as triplets and single characters. It keeps the triplets and
encodes the characters, so that its results are the texts that it does not change, and the
octets that a text stands for are kept. A text may be cut before it is encoded unless the cut
falls inside a triplet: then a percent sign is left alone and encoded.
-/

namespace WebLinking.Percent

variable {c a b : Char} {s t rest : Text}

/-- A percent sign does not pass as it is. -/
theorem isPlain_percent : isPlain '%' = false := by decide

/-- A character that passes is no percent sign. -/
theorem ne_percent_of_isPlain (h : isPlain c = true) : c ≠ '%' := by
  rintro rfl
  rw [isPlain_percent] at h
  cases h

/-- A hexadecimal digit passes. -/
theorem isPlain_of_isHexDigit (h : Text.isHexDigit c = true) : isPlain c = true := by
  simp only [isPlain, isUnreserved, Text.isAlphanum_of_isHexDigit h, Bool.true_or]

/-- A text of plain characters and triplets is not changed. -/
theorem encodeReserved_eq_self (h : IsEncoded isPlain t) : encodeReserved t = t := by
  induction h with
  | nil => rfl
  | @char c rest hc _ ih =>
    have hne : c ≠ '%' := ne_percent_of_isPlain hc
    rw [encodeReserved_cons (not_beginsTriplet_cons hne), encodeChar, if_pos hc, ih]
    rfl
  | triplet ha hb _ ih => rw [encodeReserved_triplet ha hb, ih]

/-- A text stands for the same octets once it is encoded. -/
theorem octets_encodeReserved (t : Text) : octets (encodeReserved t) = octets t := by
  induction t using readInduction with
  | nil => rfl
  | triplet a b rest ha hb ih =>
    rw [encodeReserved_triplet ha hb, octets_triplet_cons ha hb, octets_triplet_cons ha hb, ih]
  | char c rest h ih =>
    rw [encodeReserved_cons h, octets_encodeChar isPlain_percent, octets_cons h, ih]

/-- Reserved encoding keeps the octets that a text stands for, and changes no text that it has
made. -/
theorem encodeReserved_normalizes (t : Text) :
    IsEncoded isPlain (encodeReserved t) ∧ (encodeReserved t = t ↔ IsEncoded isPlain t) ∧
      encodeReserved (encodeReserved t) = encodeReserved t ∧
      octets (encodeReserved t) = octets t := by
  have hencoded := isEncoded_encodeReserved t
  refine ⟨hencoded, ⟨fun h => ?_, encodeReserved_eq_self⟩, encodeReserved_eq_self hencoded,
    octets_encodeReserved t⟩
  rw [← h]
  exact hencoded

/-- Percent signs that begin no triplet, a triplet behind one of them, and one that is cut off. -/
example : encodeReserved "%%41é%2".toList = "%25%41%C3%A9%252".toList := by decide

/-- A triplet reaches over the place after the first characters of a text. -/
structure CutsTriplet (t : Text) (n : ℕ) (before : Text) (a b : Char) (after : Text) : Prop where
  /-- The triplet stands in the text. -/
  eq : t = before ++ '%' :: a :: b :: after
  /-- Its first digit. -/
  high : Text.isHexDigit a = true
  /-- Its second digit. -/
  low : Text.isHexDigit b = true
  /-- Its percent sign stands before the cut. -/
  lt : before.length < n
  /-- Its second digit stands after the cut. -/
  gt : n < before.length + 3

/-- A cut leaves a whole triplet, or as much of the triplet of the percent sign as a percent sign is
encoded as. -/
def CutsCleanly (t : Text) (n : ℕ) : Prop :=
  ∀ before a b after, CutsTriplet t n before a b after →
    a = '2' ∧ b = '5' ∧ (n = before.length + 2 → after.head? = some '2')

/-- What continues a text begins with a triplet if the text does. -/
theorem BeginsTriplet.append (h : BeginsTriplet s) (t : Text) : BeginsTriplet (s ++ t) := by
  obtain ⟨a, b, rest, rfl, ha, hb⟩ := h
  exact ⟨a, b, rest ++ t, rfl, ha, hb⟩

/-- A percent sign ends the triplet that it comes after. -/
theorem BeginsTriplet.of_append_percent (h : BeginsTriplet (c :: (s ++ '%' :: t))) :
    BeginsTriplet (c :: s) := by
  have hpercent : Text.isHexDigit '%' ≠ true := by decide
  obtain ⟨a, b, rest, he, ha, hb⟩ := h
  rcases s with - | ⟨x, - | ⟨y, s⟩⟩
  · cases he
    exact absurd ha hpercent
  · cases he
    exact absurd hb hpercent
  · cases he
    exact ⟨a, b, s, rfl, ha, hb⟩

/-- A percent sign ends what is read before it. -/
theorem encodeReserved_append_percent (s t : Text) :
    encodeReserved (s ++ '%' :: t) = encodeReserved s ++ encodeReserved ('%' :: t) := by
  induction s using readInduction with
  | nil => rfl
  | triplet a b rest ha hb ih =>
    rw [encodeReserved_triplet ha hb]
    simp only [List.cons_append]
    rw [encodeReserved_triplet ha hb, ih]
  | char c rest h ih =>
    rw [encodeReserved_cons h, List.cons_append,
      encodeReserved_cons (mt BeginsTriplet.of_append_percent h), ih, List.append_assoc]

/-- The parts of a text are encoded one after the other if no triplet is cut. -/
theorem encodeReserved_take_append_drop {n : ℕ}
    (h : ∀ before a b after, ¬CutsTriplet t n before a b after) :
    encodeReserved (t.take n) ++ encodeReserved (t.drop n) = encodeReserved t := by
  induction t using readInduction generalizing n with
  | nil => simp [encodeReserved]
  | triplet a b rest ha hb ih =>
    rcases n with - | - | - | n
    · rfl
    · exact absurd ⟨rfl, ha, hb, by simp, by simp⟩ (h [] a b rest)
    · exact absurd ⟨rfl, ha, hb, by simp, by simp⟩ (h [] a b rest)
    · have hrest : ∀ before a' b' after, ¬CutsTriplet rest n before a' b' after := by
        rintro before a' b' after ⟨rfl, ha', hb', hlt, hgt⟩
        exact h ('%' :: a :: b :: before) a' b' after
          ⟨rfl, ha', hb', by simpa using hlt, by simpa using hgt⟩
      simp only [List.take_succ_cons, List.drop_succ_cons]
      rw [encodeReserved_triplet ha hb, encodeReserved_triplet ha hb, ← ih hrest]
      rfl
  | char c rest hc ih =>
    rcases n with - | n
    · rfl
    · have hrest : ∀ before a b after, ¬CutsTriplet rest n before a b after := by
        rintro before a b after ⟨rfl, ha, hb, hlt, hgt⟩
        exact h (c :: before) a b after ⟨rfl, ha, hb, by simpa using hlt, by simp; omega⟩
      have htake : ¬BeginsTriplet (c :: rest.take n) := by
        intro hbegins
        have happend := hbegins.append (rest.drop n)
        rw [List.cons_append, List.take_append_drop] at happend
        exact hc happend
      rw [List.take_succ_cons, List.drop_succ_cons, encodeReserved_cons htake,
        encodeReserved_cons hc, List.append_assoc, ih hrest]

/-- A character that passes begins an encoded text if it begins the text. -/
theorem head?_encodeReserved_eq_some_iff (hc : isPlain c = true) :
    (encodeReserved t).head? = some c ↔ t.head? = some c := by
  induction t using readInduction with
  | nil => rfl
  | triplet a b rest ha hb _ => rw [encodeReserved_triplet ha hb]; rfl
  | char d rest h _ =>
    rw [encodeReserved_cons h, encodeChar]
    split
    · rfl
    · rename_i hd
      have hne : d ≠ c := by
        rintro rfl
        exact hd hc
      have hpercent : '%' ≠ c := (ne_percent_of_isPlain hc).symm
      obtain ⟨octet, octets, hoctets⟩ :=
        List.exists_cons_of_ne_nil (String.utf8EncodeChar_ne_nil (c := d))
      simp [hoctets, triplet, hne, hpercent]

/-- A percent sign that is left alone with a digit is encoded, and the digit is not. -/
theorem encodeReserved_percent_digit (ha : Text.isHexDigit a = true) :
    encodeReserved ['%', a] = ['%', '2', '5', a] := by
  have hshort : ¬BeginsTriplet ['%', a] := by
    rintro ⟨x, y, more, he, -, -⟩
    cases he
  have hplain : isPlain a = true := isPlain_of_isHexDigit ha
  rw [encodeReserved_cons hshort,
    encodeReserved_cons (not_beginsTriplet_cons (ne_percent_of_isPlain hplain)), encodeChar,
    encodeChar, if_pos hplain]
  rfl

/-- What a cut leaves of a triplet is encoded as the beginning of the whole in one case only. -/
theorem CutsTriplet.isPrefix_iff {n : ℕ} {before after : Text}
    (h : CutsTriplet t n before a b after) :
    encodeReserved (t.take n) <+: encodeReserved t ↔
      a = '2' ∧ b = '5' ∧ (n = before.length + 2 → after.head? = some '2') := by
  obtain ⟨rfl, ha, hb, hlt, hgt⟩ := h
  have hwhole : encodeReserved (before ++ '%' :: a :: b :: after) =
      encodeReserved before ++ '%' :: a :: b :: encodeReserved after := by
    rw [encodeReserved_append_percent, encodeReserved_triplet ha hb]
  obtain rfl | rfl : n = before.length + 1 ∨ n = before.length + 2 := by omega
  · have hcut : encodeReserved ((before ++ '%' :: a :: b :: after).take (before.length + 1)) =
        encodeReserved before ++ ['%', '2', '5'] := by
      rw [List.take_length_add_append]
      exact encodeReserved_append_percent before []
    rw [hcut, hwhole, List.prefix_append_right_inj]
    simp [eq_comm]
  · have hcut : encodeReserved ((before ++ '%' :: a :: b :: after).take (before.length + 2)) =
        encodeReserved before ++ ['%', '2', '5', a] := by
      rw [List.take_length_add_append, ← encodeReserved_percent_digit ha]
      exact encodeReserved_append_percent before [a]
    have hdigit : ['2'] <+: encodeReserved after ↔ after.head? = some '2' := by
      rw [← head?_encodeReserved_eq_some_iff (by decide)]
      cases encodeReserved after <;> simp [eq_comm]
    rw [hcut, hwhole, List.prefix_append_right_inj]
    simp only [List.cons_prefix_cons, true_and, forall_const]
    constructor
    · rintro ⟨rfl, rfl, hafter⟩
      exact ⟨rfl, rfl, hdigit.mp hafter⟩
    · rintro ⟨rfl, rfl, hafter⟩
      exact ⟨rfl, rfl, hdigit.mpr hafter⟩

/-- The beginning of a text is encoded as the beginning of what the text is encoded as exactly
if it is cut cleanly. -/
theorem isPrefix_encodeReserved_take_iff {n : ℕ} :
    encodeReserved (t.take n) <+: encodeReserved t ↔ CutsCleanly t n := by
  constructor
  · intro h before a b after hcut
    exact hcut.isPrefix_iff.mp h
  · intro h
    by_cases hcuts : ∃ before a b after, CutsTriplet t n before a b after
    · obtain ⟨before, a, b, after, hcut⟩ := hcuts
      exact hcut.isPrefix_iff.mpr (h before a b after hcut)
    · simp only [not_exists] at hcuts
      exact ⟨_, encodeReserved_take_append_drop hcuts⟩

end WebLinking.Percent
