import WebLinking.Number.Decimal

/-!
# Binary floating-point numbers

The numbers of the 64-bit binary format as exact values: a sign, a significand below
`2 ^ 53` and a power of two. Reading rounds a decimal to the nearest such number, with
ties to the even significand; writing takes the fewest digits that read back, and of
those the nearest ones.
-/

namespace WebLinking

/-- A number of the 64-bit binary format. -/
inductive Binary64 where
  /-- The result of an undefined operation. -/
  | nan
  /-- A value beyond the range of the format. -/
  | infinite (negative : Bool)
  /-- The value `significand * 2 ^ exponent`, with its sign. -/
  | finite (negative : Bool) (significand : Nat) (exponent : Int)
  deriving DecidableEq, Repr

namespace Binary64

/-- Two to the power of a natural number. -/
def twoTo (n : Nat) : Nat := Nat.pow 2 n

/-- Ten to the power of a natural number. -/
def tenTo (n : Nat) : Nat := Nat.pow 10 n

/-- The least exponent of a significand. -/
def leastExponent : Int := -1074

/-- The greatest exponent of a significand. -/
def greatestExponent : Int := 971

/-- The quotient rounded to the nearest natural number, ties to the even one. -/
def roundDiv (num den : Nat) : Nat :=
  let q := num / den
  let twice := 2 * (num % den)
  if twice > den || (twice == den && q % 2 == 1) then q + 1 else q

/-- The fraction `num / den` times `2 ^ -shift`, as numerator and denominator. -/
def scaled (num den : Nat) (shift : Int) : Nat × Nat :=
  if shift < 0 then (num * twoTo shift.natAbs, den) else (num, den * twoTo shift.natAbs)

/-- The exponent at which a positive fraction has a significand of 53 bits, or the least
exponent if it would be smaller. -/
def exponentOf (num den : Nat) : Int :=
  let guess : Int := (num.log2 : Int) - (den.log2 : Int) - 52
  let (n, d) := scaled num den guess
  max leastExponent (if n < d * twoTo 52 then guess - 1 else guess)

/-- The number nearest to a fraction. -/
def ofRatio (negative : Bool) (num den : Nat) : Binary64 :=
  if num = 0 || den = 0 then .finite negative 0 leastExponent
  else
    let exponent := exponentOf num den
    let (n, d) := scaled num den exponent
    let significand := roundDiv n d
    let (significand, exponent) :=
      if significand = twoTo 53 then (twoTo 52, exponent + 1) else (significand, exponent)
    if exponent > greatestExponent then .infinite negative
    else .finite negative significand exponent

/-- The number nearest to `digits * 10 ^ power`. Powers far outside the range of the
format are settled by size alone. -/
def ofDecimal (negative : Bool) (digits : Nat) (power : Int) : Binary64 :=
  if digits = 0 then .finite negative 0 leastExponent
  else
    let magnitude : Int := power + (Decimal.ofNat digits).length
    if magnitude > 400 then .infinite negative
    else if magnitude < -400 then .finite negative 0 leastExponent
    else if power < 0 then ofRatio negative digits (tenTo power.natAbs)
    else ofRatio negative (digits * tenTo power.natAbs) 1

/-- The digits of a numeral part with single underscores between digits, none for an
empty part. -/
def digitGroups? (t : Text) : Option Text :=
  if t.isEmpty then some []
  else
    let groups := Text.splitOn '_' t
    if groups.any List.isEmpty || !groups.flatten.all (Text.digitValue? · |>.isSome) then none
    else some groups.flatten

/-- Reads an unsigned decimal with an optional point and an optional exponent. -/
def ofUnsigned? (negative : Bool) (t : Text) : Option Binary64 := do
  let marked := t.map fun c => if c = 'E' then 'e' else c
  let (mantissa, exponent) := Text.cutAt 'e' marked
  let (whole, fraction) := Text.cutAt '.' mantissa
  let whole ← digitGroups? whole
  let fraction ← digitGroups? fraction
  let power ←
    if marked.contains 'e' then
      let (negative, digits) := Decimal.splitSign exponent
      (Decimal.grouped? digits).map (Decimal.signed negative)
    else some 0
  if whole.isEmpty && fraction.isEmpty then none
  else
    let digits ← Decimal.digitsFrom 0 (whole ++ fraction)
    some (ofDecimal negative digits (power - fraction.length))

/-- Reads a number: white space around an optional sign and a decimal, an infinity or an
undefined result. -/
def ofText? (t : Text) : Option Binary64 :=
  let (negative, body) := Decimal.splitSign (Text.strip Text.isWhiteSpace t)
  let word := body.map Char.toLower
  if word = "nan".toList then some .nan
  else if word = "inf".toList || word = "infinity".toList then some (.infinite negative)
  else ofUnsigned? negative body

/-- The value of a finite number without its sign, as a fraction. -/
def fraction (significand : Nat) (exponent : Int) : Nat × Nat :=
  scaled significand 1 (-exponent)

/-- The place of the decimal point of a positive fraction: the power of ten just above
it. -/
def pointOf (num den : Nat) : Int :=
  ((Decimal.ofNat (num * tenTo 400 / den)).length : Int) - 400

/-- The multiples of `10 ^ power` around a positive fraction that read back as the number
`x`, with the nearer first. -/
def neighboursAt (x : Binary64) (num den : Nat) (power : Int) : List Nat :=
  let (n, d) :=
    if power < 0 then (num * tenTo power.natAbs, den) else (num, den * tenTo power.natAbs)
  let below := n / d
  let nearer := roundDiv n d
  let ordered := if nearer = below then [below, below + 1] else [below + 1, below]
  ordered.filter fun digits => ofDecimal false digits power == x

/-- The shortest decimal that reads back as a positive number, as digits and power of ten; `counts`
are still to be tried. -/
def shortestAmong (x : Binary64) (num den : Nat) : (counts : List Nat) → Nat × Int
  | [] => (roundDiv num den, 0)
  | count :: more =>
    let power := pointOf num den - count
    match neighboursAt x num den power with
    | digits :: _ => (digits, power)
    | [] => shortestAmong x num den more

/-- Digits without the zeros at their end, and the power of ten that makes up for them. -/
def dropTrailingZeros (digits : Text) (power : Int) : Text × Int :=
  let kept := (digits.reverse.dropWhile (· == '0')).reverse
  (kept, power + ((digits.length - kept.length : Nat) : Int))

/-- The digits of a positive number and the place of its decimal point. -/
def shortest (significand : Nat) (exponent : Int) : Text × Int :=
  let (num, den) := fraction significand exponent
  let (digits, power) :=
    shortestAmong (.finite false significand exponent) num den ((List.range 17).map (· + 1))
  let (digits, power) := dropTrailingZeros (Decimal.ofNat digits) power
  (digits, power + digits.length)

/-- Lays out digits whose decimal point stands at `point`: positionally from `10 ^ -4` to below `10
^ 16`, else with an exponent. -/
def layOut (digits : Text) (point : Int) : Text :=
  if point > 16 || point < -3 then
    let power := point - 1
    let tail := Decimal.ofNat power.natAbs
    let mantissa := digits.take 1 ++ if digits.length > 1 then '.' :: digits.drop 1 else []
    mantissa ++ ['e', if power < 0 then '-' else '+'] ++
      (if tail.length < 2 then '0' :: tail else tail)
  else if point ≤ 0 then
    "0.".toList ++ List.replicate point.natAbs '0' ++ digits
  else if digits.length ≤ point.toNat then
    digits ++ List.replicate (point.toNat - digits.length) '0' ++ ".0".toList
  else digits.take point.toNat ++ '.' :: digits.drop point.toNat

/-- The text of a number. -/
def text : Binary64 → Text
  | .nan => "nan".toList
  | .infinite negative => (if negative then ['-'] else []) ++ "inf".toList
  | .finite negative significand exponent =>
    (if negative then ['-'] else []) ++
      if significand = 0 then "0.0".toList
      else
        let (digits, point) := shortest significand exponent
        layOut digits point

/-- The part of a finite number before its decimal point, rounded toward zero. -/
def truncated (negative : Bool) (significand : Nat) (exponent : Int) : Int :=
  let (num, den) := fraction significand exponent
  Decimal.signed negative (num / den)

/-- A finite number without a fraction. -/
def isWhole (significand : Nat) (exponent : Int) : Bool :=
  let (num, den) := fraction significand exponent
  num % den == 0

end Binary64

end WebLinking
