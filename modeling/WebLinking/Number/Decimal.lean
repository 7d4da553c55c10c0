import WebLinking.Text.Blank
import WebLinking.Text.Digit

/-!
# Integers in decimal notation

One way of writing integers and two of reading them. A literal is what a number
constructor takes: digits of any script. A form field is what arrives in a request or
an environment: digits of the Latin basis, but with leading zeros, a fraction of zeros
and a plus sign passed over. No integer of more digits than `digitLimit` is written or
read.
-/

namespace WebLinking.Decimal

/-- The greatest number of digits that an integer is written or read with. -/
def digitLimit : Nat := 4300

/-- A natural number in decimal digits without leading zeros. -/
def ofNat (n : Nat) : Text := Nat.toDigits 10 n

/-- An integer in decimal digits, after a minus sign if it is negative. -/
def ofInt (i : Int) : Text :=
  if i < 0 then '-' :: ofNat i.natAbs else ofNat i.natAbs

/-- The text of an integer, or `none` if it has more digits than the limit. -/
def written? (i : Int) : Option Text :=
  if (ofNat i.natAbs).length ≤ digitLimit then some (ofInt i) else none

/-- What comes of reading an integer. -/
inductive Reading where
  /-- An integer. -/
  | value (i : Int)
  /-- The text is no integer. -/
  | unreadable
  /-- The text has more digits than the limit. -/
  | tooLong (digits : Nat)
  deriving DecidableEq, Repr

/-- The reading that an optional integer amounts to. -/
def Reading.ofOption : Option Int → Reading
  | some i => .value i
  | none => .unreadable

/-- The number that digits of one base-ten numeral stand for, the earlier digits being `n`. -/
def digitsFrom (n : Nat) : Text → Option Nat
  | [] => some n
  | c :: rest => do digitsFrom (10 * n + (← Text.digitValue? c)) rest

/-- The number read from digits with single underscores between them. -/
def grouped? (t : Text) : Option Nat :=
  let groups := Text.splitOn '_' t
  if groups.any List.isEmpty then none else digitsFrom 0 groups.flatten

/-- A number with its sign. -/
def signed (negative : Bool) (n : Nat) : Int := if negative then -n else n

/-- Sets the sign apart from a numeral. -/
def splitSign : Text → Bool × Text
  | '-' :: rest => (true, rest)
  | '+' :: rest => (false, rest)
  | rest => (false, rest)

/-- A character belongs to the run of digits and underscores that a literal begins with. -/
def isLiteralChar (c : Char) : Bool := (Text.digitValue? c).isSome || c == '_'

/-- Reads an integer literal: an optional sign and digits of any script, single underscores between
them and white space around. -/
def ofLiteral (t : Text) : Reading :=
  let (negative, body) := splitSign (t.dropWhile Text.isWhiteSpace)
  let groups := Text.splitOn '_' (body.takeWhile isLiteralChar)
  let digits := groups.flatten
  if groups.any List.isEmpty then .unreadable
  else if digitLimit < digits.length then .tooLong digits.length
  else if (body.dropWhile isLiteralChar).all Text.isWhiteSpace then
    .ofOption ((digitsFrom 0 digits).map (signed negative))
  else .unreadable

/-- Reads a numeral of the Latin basis without leading zeros. Digits beyond the limit hide whatever
follows them. -/
def ofNumeral (t : Text) : Reading :=
  let negative := t.head? == some '-'
  let digits := if negative then t.drop 1 else t
  let run := (digits.takeWhile Char.isDigit).length
  if digits.head? == some '0' && digits != ['0'] then .unreadable
  else if digitLimit < run then .tooLong run
  else if digits.isEmpty || !digits.all Char.isDigit then .unreadable
  else .ofOption ((digitsFrom 0 digits).map (signed negative))

/-- Drops the zeros and underscores at the start of a numeral, as far as it stays one; `last` was
dropped last. -/
def dropZerosAfter (last : Char) : Text → Option Text
  | [] => some [last]
  | c :: rest =>
    if c = '0' || c = '_' then dropZerosAfter c rest
    else if c.isDigit || c = '-' then some (c :: rest)
    else if c = '.' then some (last :: c :: rest)
    else none

/-- Drops leading zeros; only a digit may come first. -/
def dropZeros : Text → Option Text
  | [] => none
  | c :: rest =>
    if c = '0' then dropZerosAfter c rest
    else if c.isDigit then some (c :: rest)
    else none

/-- Drops a point with zeros, and at least one, after it. -/
def dropZeroFraction (t : Text) : Text :=
  let (whole, fraction) := Text.cutAt '.' t
  if !fraction.isEmpty && fraction.all (· == '0') then whole else t

/-- Drops underscores, provided that each stands alone between two other characters. -/
def dropUnderscores (t : Text) : Text :=
  let groups := Text.splitOn '_' t
  if groups.any List.isEmpty then t else groups.flatten

/-- Reads the integer in a form field, less white space, a plus sign, leading zeros, single
underscores and a fraction of zeros. -/
def ofField (t : Text) : Reading :=
  let (negative, body) := splitSign (Text.strip Text.isWhiteSpace t)
  match dropZeros body with
  | some digits =>
    let numeral := dropUnderscores (dropZeroFraction digits)
    ofNumeral (if negative then '-' :: numeral else numeral)
  | none => .unreadable

end WebLinking.Decimal
