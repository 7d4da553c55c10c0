import Mathlib.Algebra.Group.Nat.Defs
import Mathlib.Data.List.Basic
import WebLinking.Number.Decimal

/-!
# Numerals

A natural number has one decimal numeral without leading zeros. Writing gives this
numeral, reading it gives the number back, and a run of Latin digits that does not begin
with a zero is the numeral of the number that is read from it. Numbers are written unless
they have too many digits.
-/

namespace WebLinking.Decimal

/-- A Latin digit has the value that its place after zero says. -/
theorem digitValue?_of_isDigit {c : Char} (h : c.isDigit = true) :
    Text.digitValue? c = some (c.toNat - '0'.toNat) := by
  have hbound : c.toNat < 0x80 :=
    Nat.lt_of_le_of_lt (Char.isDigit_iff_toNat.mp h).2 (by decide)
  simp only [Text.digitValue?, hbound, h, ite_true]

/-- A Latin digit is the written form of its value. -/
theorem exists_digitChar {c : Char} (h : c.isDigit = true) :
    ∃ k, k < 10 ∧ k.digitChar = c := by
  obtain ⟨hlow, hhigh⟩ := Char.isDigit_iff_toNat.mp h
  have hlow' : 48 ≤ c.toNat := hlow
  have hhigh' : c.toNat ≤ 57 := hhigh
  refine ⟨c.toNat - 48, by omega, Char.toNat_inj.mp ?_⟩
  rw [Nat.toNat_digitChar_of_lt_ten (by omega)]
  omega

/-- Reading a run of Latin digits is the positional value of the run. -/
theorem digitsFrom_eq (n : Nat) {t : Text} (h : ∀ c ∈ t, c.isDigit = true) :
    digitsFrom n t = some (Nat.ofDigitChars 10 t n) := by
  induction t generalizing n with
  | nil => simp only [digitsFrom, Nat.ofDigitChars_nil]
  | cons c rest ih =>
    have hrest := ih (10 * n + (c.toNat - '0'.toNat)) fun d hd => h d (List.mem_cons_of_mem c hd)
    rw [digitsFrom, digitValue?_of_isDigit (h c List.mem_cons_self), Nat.ofDigitChars_cons, ← hrest]
    rfl

/-- A numeral is made of Latin digits. -/
theorem isDigit_of_mem_ofNat {n : Nat} {c : Char} (h : c ∈ ofNat n) : c.isDigit = true :=
  Nat.isDigit_of_mem_toDigits (by decide) (by decide) h

/-- A number is read back from its numeral. -/
theorem digitsFrom_ofNat (n : Nat) : digitsFrom 0 (ofNat n) = some n := by
  rw [digitsFrom_eq 0 fun c hc => isDigit_of_mem_ofNat hc, ofNat, Nat.ofDigitChars_ten_toDigits]

/-- The numeral of a positive number does not begin with a zero. -/
theorem head?_ofNat_ne_zero {n : Nat} (h : 0 < n) : (ofNat n).head? ≠ some '0' := by
  induction n using Nat.strongRecOn with
  | _ n ih =>
    rw [ofNat, Nat.toDigits_eq_if (by decide)]
    split
    · simpa only [List.head?_cons, ne_eq, Option.some.injEq, Nat.digitChar_eq_zero] using
        Nat.ne_of_gt h
    · rw [List.head?_append_of_ne_nil _ Nat.toDigits_ne_nil]
      exact ih (n / 10) (by omega) (by omega)

/-- Latin digits after the numeral of a positive number continue the numeral. -/
theorem ofNat_append {n : Nat} (hn : 0 < n) {t : Text} (h : ∀ c ∈ t, c.isDigit = true) :
    ofNat n ++ t = ofNat (Nat.ofDigitChars 10 t n) := by
  induction t generalizing n with
  | nil => rw [List.append_nil, Nat.ofDigitChars_nil]
  | cons c rest ih =>
    obtain ⟨k, hk, rfl⟩ := exists_digitChar (h c List.mem_cons_self)
    have hstep : ofNat n ++ [k.digitChar] = ofNat (10 * n + k) := by
      rw [ofNat, ofNat, ← Nat.toDigits_append_toDigits (by decide) hn hk,
        Nat.toDigits_of_lt_base hk]
    rw [Nat.ofDigitChars_cons_digitChar_of_lt_ten hk,
      ← ih (by omega) fun d hd => h d (List.mem_cons_of_mem _ hd), ← hstep, List.append_assoc,
      List.singleton_append]

/-- A run of Latin digits that begins with another digit than zero is the numeral of a
positive number. -/
theorem exists_ofNat {c : Char} {rest : Text} (hc : c.isDigit = true) (hzero : c ≠ '0')
    (hrest : ∀ d ∈ rest, d.isDigit = true) : ∃ n, 0 < n ∧ ofNat n = c :: rest := by
  obtain ⟨k, hk, rfl⟩ := exists_digitChar hc
  have hpos : 0 < k := Nat.pos_of_ne_zero fun he => hzero (Nat.digitChar_eq_zero.mpr he)
  have hnumeral : ofNat k ++ rest = k.digitChar :: rest := by
    rw [ofNat, Nat.toDigits_of_lt_base hk, List.singleton_append]
  rw [ofNat_append hpos hrest] at hnumeral
  refine ⟨_, Nat.pos_of_ne_zero fun he => ?_, hnumeral⟩
  rw [he] at hnumeral
  exact hzero (List.cons.inj hnumeral).1.symm

/-- A numeral has at most as many digits as the bound on its number says. -/
theorem length_ofNat_le_iff {n k : Nat} (hk : 0 < k) : (ofNat n).length ≤ k ↔ n < 10 ^ k :=
  Nat.length_toDigits_le_iff (by decide) hk

/-- A number has a digit. -/
theorem ofNat_ne_nil (n : Nat) : ofNat n ≠ [] := List.ne_nil_of_length_pos Nat.length_toDigits_pos

/-- A natural number does not have more digits than are written. -/
def IsWritable (n : Nat) : Prop := n < 10 ^ digitLimit

instance (n : Nat) : Decidable (IsWritable n) := Nat.decLt n (10 ^ digitLimit)

/-- A number that is not above a writable one is writable. -/
theorem IsWritable.mono {m n : Nat} (hn : IsWritable n) (hmn : m ≤ n) : IsWritable m :=
  Nat.lt_of_le_of_lt hmn hn

private theorem length_ofNat_le_digitLimit {n : Nat} :
    (ofNat n).length ≤ digitLimit ↔ IsWritable n :=
  length_ofNat_le_iff (by decide)

/-- A writable number is written by its digits. -/
theorem IsWritable.written? {n : Nat} (hn : IsWritable n) :
    Decimal.written? n = some (ofNat n) :=
  if_pos (length_ofNat_le_digitLimit.mpr hn)

/-- An integer is not written exactly if it has too many digits. -/
theorem written?_eq_none_iff {i : ℤ} : written? i = none ↔ ¬IsWritable i.natAbs := by
  rw [written?, ← length_ofNat_le_digitLimit]
  split
  · rename_i h
    simp [h]
  · rename_i h
    simp [h]

/-- No other number is written. -/
theorem written?_eq_none {n : Nat} (hn : ¬IsWritable n) : written? n = none :=
  written?_eq_none_iff.mpr hn

end WebLinking.Decimal
