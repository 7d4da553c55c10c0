import WebLinking.Fault
import WebLinking.Value

/-!
# Checking fields

A check of a record looks at every field in order and reports all failures together,
unless a fault ends it at once. `Checked` is the outcome of such a check; its applicative
structure appends failures. The readers here say what an integer, a text and a truth value
may be given as.
-/

namespace WebLinking

/-- The outcome of a check: a value, the failures found, in order, or a fault. -/
inductive Checked (α : Type) where
  /-- Nothing is wrong. -/
  | sound (value : α)
  /-- At least one field is refused. -/
  | flawed (failures : List Failure)
  /-- A fault has ended the check. -/
  | halted (fault : Fault)
  deriving DecidableEq, Repr

namespace Checked

variable {α β : Type}

/-- Refuses the field under check. -/
def refuse (violation : Violation) : Checked α := .flawed [⟨[], violation⟩]

/-- Turns the value of a sound outcome into another. -/
def map (f : α → β) : Checked α → Checked β
  | .sound value => .sound (f value)
  | .flawed failures => .flawed failures
  | .halted fault => .halted fault

/-- Combines two checks; the failures of the first come before those of the second. -/
def seq (f : Checked (α → β)) (x : Checked α) : Checked β :=
  match f, x with
  | .halted fault, _ => .halted fault
  | _, .halted fault => .halted fault
  | .sound f, .sound value => .sound (f value)
  | .sound _, .flawed failures => .flawed failures
  | .flawed failures, .sound _ => .flawed failures
  | .flawed first, .flawed second => .flawed (first ++ second)

instance : Applicative Checked where
  pure := .sound
  map := map
  seq f x := seq f (x ())

/-- Checks the value of a sound outcome further. -/
def andThen (x : Checked α) (check : α → Checked β) : Checked β :=
  match x with
  | .sound value => check value
  | .flawed failures => .flawed failures
  | .halted fault => .halted fault

/-- Places an outcome inside a surrounding record or list. -/
def under (step : PathStep) : Checked α → Checked α
  | .sound value => .sound value
  | .flawed failures => .flawed (failures.map fun f => { f with path := step :: f.path })
  | .halted fault => .halted fault

/-- Places an outcome in the field of a surrounding record. -/
def inField (name : String) (x : Checked α) : Checked α := x.under (.field name.toList)

/-- Ends a check: failures become one fault. -/
def settle : Checked α → Except Fault α
  | .sound value => .ok value
  | .flawed failures => .error (.invalid failures)
  | .halted fault => .error fault

/-- Lets out the fault that has ended a check, before anything else is checked. -/
def release : Checked α → Except Fault (Checked α)
  | .sound value => .ok (.sound value)
  | .flawed failures => .ok (.flawed failures)
  | .halted fault => .error fault

/-- A field that must be given. -/
def required (read : Value → Checked α) : Option Value → Checked α
  | some value => read value
  | none => refuse .missing

/-- A field that has a value of its own when it is not given. -/
def withDefault (default : α) (read : Value → Checked α) : Option Value → Checked α
  | some value => read value
  | none => .sound default

/-- A field that may be absent, or given as the absent value. -/
def optional (read : Value → Checked α) : Option Value → Checked (Option α)
  | none => .sound none
  | some .null => .sound none
  | some value => (read value).map some

end Checked

namespace Value

open Checked

/-- A text is given as such, as the octets that encode it, or as an enumeration member with it. -/
def asText : Value → Checked Text
  | .scalar (.text t) | .unordered (.bytes t) | .unordered (.byteBuffer t) => .sound t
  | .member value =>
    match Scalar.memberSpelling? value with
    | some t => .sound t
    | none => .halted .longInteger
  | _ => refuse .notText

/-- How many integers, counted from zero, a 64-bit word with a sign can hold. -/
def wordBound : Int := Binary64.twoTo 63

/-- The integer that a floating-point number stands for: it must be finite, without a
fraction and within 63 bits. -/
def integerOfFloat : Binary64 → Checked Int
  | .finite negative significand exponent =>
    if !Binary64.isWhole significand exponent then refuse .fractional
    else
      let i := Binary64.truncated negative significand exponent
      if -wordBound < i && i < wordBound then .sound i else refuse .oversized
  | _ => refuse .notFinite

/-- The integer in the text of a form field. -/
def integerOfField (t : Text) : Checked Int :=
  match Decimal.ofField t with
  | .value i => .sound i
  | .unreadable => refuse .unreadableInteger
  | .tooLong _ => refuse .oversized

/-- An integer is given as a number without a fraction, a truth value, a form text or an enumeration
member. -/
def asInteger : Value → Checked Int
  | .scalar (.int i) | .member (some (.int i)) => .sound i
  | .scalar (.bool b) | .member (some (.bool b)) => .sound (if b then 1 else 0)
  | .scalar (.float x) => integerOfFloat x
  | .scalar (.text t) | .unordered (.bytes t) => integerOfField t
  | .member _ => refuse .oversized
  | _ => refuse .notInteger

/-- The texts that stand for true. -/
def affirmations : List Text := ["1", "t", "true", "y", "yes", "on"].map String.toList

/-- The texts that stand for false. -/
def denials : List Text := ["0", "f", "false", "n", "no", "off"].map String.toList

/-- One stands for true and zero for false; an integer beyond 64 bits is not looked at. -/
def booleanOfInt (i : Int) : Checked Bool :=
  if i < -wordBound || wordBound ≤ i then refuse .notBoolean
  else if i = 1 then .sound true
  else if i = 0 then .sound false
  else refuse .unreadableBoolean

/-- A truth value is given as such, as one or zero, or as a word for them in any case and
without blanks. -/
def asBoolean : Value → Checked Bool
  | .scalar (.bool b) => .sound b
  | .scalar (.text t) | .unordered (.bytes t) =>
    let word := t.map Char.toLower
    if affirmations.contains word then .sound true
    else if denials.contains word then .sound false
    else refuse .unreadableBoolean
  | .scalar (.int i) => booleanOfInt i
  | .scalar (.float x) =>
    match integerOfFloat x with
    | .sound i => booleanOfInt i
    | _ => refuse .notBoolean
  | _ => refuse .notBoolean

/-- An integer that is at least `low`. -/
def asAtLeast (low : Int) (value : Value) : Checked Int :=
  value.asInteger.andThen fun i => if i < low then refuse (.belowBound low) else .sound i

/-- A natural number. -/
def asNatural (value : Value) : Checked Nat := (value.asAtLeast 0).map Int.toNat

/-- A natural number from `low` to `high`. -/
def asBetween (low high : Nat) (value : Value) : Checked Nat :=
  value.asInteger.andThen fun i =>
    if (high : Int) < i then refuse (.aboveBound high)
    else if i < (low : Int) then refuse (.belowBound low)
    else .sound i.toNat

end Value

end WebLinking
