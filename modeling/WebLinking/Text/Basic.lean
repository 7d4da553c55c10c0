/-!
# Text as code points

Every text of the library is the list of its code points, so that lengths and
positions count code points and each scan is a recursion on the text itself. This
module holds the two operations that all formats share: cutting at a delimiter and
telling hexadecimal digits.
-/

namespace WebLinking

/-- A text is the list of its code points. -/
abbrev Text := List Char

namespace Text

/-- Cuts a text at every character of a class: `n` such characters leave `n + 1` pieces. -/
def splitWhere (cut : Char → Bool) : Text → List Text
  | [] => [[]]
  | c :: rest =>
    if cut c then [] :: splitWhere cut rest
    else
      match splitWhere cut rest with
      | [] => [[c]]
      | piece :: more => (c :: piece) :: more

/-- Cuts a text at every occurrence of one delimiter. -/
def splitOn (delimiter : Char) (t : Text) : List Text := splitWhere (· == delimiter) t

/-- Writes pieces one after another with a separator between neighbours. -/
def joinWith (separator : Text) (pieces : List Text) : Text := separator.intercalate pieces

/-- What stands before the first occurrence of a delimiter, and what stands after it. -/
def cutAt (delimiter : Char) (t : Text) : Text × Text :=
  (t.takeWhile (· != delimiter), (t.dropWhile (· != delimiter)).drop 1)

/-- A hexadecimal digit in either case. -/
def isHexDigit (c : Char) : Bool :=
  c.isDigit || ('a' ≤ c && c ≤ 'f') || ('A' ≤ c && c ≤ 'F')

/-- A hexadecimal digit is a letter or digit of the Latin basis. -/
theorem isAlphanum_of_isHexDigit {c : Char} (h : isHexDigit c = true) : c.isAlphanum = true := by
  change (decide ('A'.val ≤ c.val ∧ c.val ≤ 'Z'.val) ||
    (decide ('a'.val ≤ c.val) && decide (c.val ≤ 'z'.val)) || c.isDigit) = true
  simp only [isHexDigit, Bool.or_eq_true, Bool.and_eq_true, decide_eq_true_eq] at h ⊢
  rcases h with (h | ⟨hlow, hhigh⟩) | ⟨hlow, hhigh⟩
  · exact Or.inr h
  · exact Or.inl (Or.inr ⟨hlow, UInt32.le_trans hhigh (show 'f'.val ≤ 'z'.val by decide)⟩)
  · exact Or.inl (Or.inl ⟨hlow, UInt32.le_trans hhigh (show 'F'.val ≤ 'Z'.val by decide)⟩)

/-- A number below sixteen as a hexadecimal digit whose letters start at `ten`. -/
def hexDigit (ten : Char) (n : Nat) : Char :=
  if n < 10 then Char.ofNat ('0'.toNat + n) else Char.ofNat (ten.toNat + (n - 10))

/-- The last `width` hexadecimal digits of a number, in lower case. -/
def hexDigits : (width n : Nat) → Text
  | 0, _ => []
  | width + 1, n => hexDigits width (n / 16) ++ [hexDigit 'a' (n % 16)]

end Text

end WebLinking
