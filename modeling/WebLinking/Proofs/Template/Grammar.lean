import Mathlib.Data.List.Chain
import WebLinking.Proofs.Number.Numeral
import WebLinking.Template.Parsing

/-!
# The grammar of patterns

A pattern is a row of literals without braces and of expressions. An expression has an
operator and, between commas, names with at most one modifier each. The grammar speaks of
written parts only: it knows neither positions nor the scan that reads them. A row of
parts is a decomposition of a pattern if its literals are as long as they can be.
-/

namespace WebLinking

/-- One character of a name: a word character or a percent triplet. -/
inductive IsVarchar : Text → Prop
  /-- A letter, a digit or an underscore. -/
  | word {c : Char} (h : Variable.isWordChar c = true) : IsVarchar [c]
  /-- A percent sign with two hexadecimal digits. -/
  | triplet {a b : Char} (ha : Text.isHexDigit a = true) (hb : Text.isHexDigit b = true) :
      IsVarchar ['%', a, b]

/-- A name: characters of names, with at most one dot between neighbours. -/
inductive IsVarname : Text → Prop
  /-- A single character of a name. -/
  | single {u : Text} (hu : IsVarchar u) : IsVarname u
  /-- A character before a name. -/
  | cons {u n : Text} (hu : IsVarchar u) (hn : IsVarname n) : IsVarname (u ++ n)
  /-- A character and a dot before a name. -/
  | dotted {u n : Text} (hu : IsVarchar u) (hn : IsVarname n) : IsVarname (u ++ '.' :: n)

namespace Varspec

/-- A name and its modifier as they are written. -/
def text (spec : Varspec) : Text :=
  if spec.explode then spec.name ++ ['*']
  else
    match spec.maxLength with
    | some n => spec.name ++ ':' :: Decimal.ofNat n
    | none => spec.name

/-- The name is a name, a prefix length is in bounds, and there is at most one modifier. -/
structure IsWellFormed (spec : Varspec) : Prop where
  /-- The name is one of the grammar. -/
  name : IsVarname spec.name
  /-- A prefix length goes from 1 to 9999. -/
  bounds : ∀ n, spec.maxLength = some n → 1 ≤ n ∧ n ≤ 9999
  /-- An explode mark excludes a prefix length. -/
  exclusive : spec.explode = true → spec.maxLength = none

end Varspec

/-- A part of a pattern as it is written. -/
inductive Part where
  /-- Text that stands for itself. -/
  | literal (t : Text)
  /-- An operator and the names with their modifiers. -/
  | expression (operator : Operator) (specs : List Varspec)
  deriving DecidableEq, Repr

namespace Part

/-- The text of a part. -/
def text : Part → Text
  | .literal t => t
  | .expression operator specs =>
    '{' :: operator.key ++ Text.joinWith [','] (specs.map Varspec.text) ++ ['}']

/-- A part is a literal. -/
def isLiteral : Part → Bool
  | .literal _ => true
  | .expression _ _ => false

/-- A literal has no braces; an expression has at least one name. -/
inductive IsWellFormed : Part → Prop
  /-- A text without braces. -/
  | literal {t : Text} (hopen : '{' ∉ t) (hclose : '}' ∉ t) : IsWellFormed (.literal t)
  /-- Names with their modifiers after an operator. -/
  | expression {operator : Operator} {specs : List Varspec} (hne : specs ≠ [])
      (h : ∀ spec ∈ specs, spec.IsWellFormed) : IsWellFormed (.expression operator specs)

/-- The segment that a part stands for. -/
def segment : Part → Segment
  | .literal t => .literal t
  | .expression operator specs =>
    .group ⟨operator, specs.map fun spec => spec.toVariable operator⟩

end Part

/-- A text is a concatenation of literals and expressions. -/
structure Spells (parts : List Part) (p : Text) : Prop where
  /-- The parts written one after another are the text. -/
  text : parts.flatMap Part.text = p
  /-- Every part follows the grammar. -/
  wellFormed : ∀ part ∈ parts, part.IsWellFormed

/-- The parts spell a text and their literals are maximal. -/
structure Decomposes (parts : List Part) (p : Text) : Prop extends Spells parts p where
  /-- No literal is empty. -/
  nonempty : Part.literal [] ∉ parts
  /-- No literal has a literal as its neighbour. -/
  maximal : parts.IsChain fun a b => (a.isLiteral && b.isLiteral) = false

/-- A variable as an expression writes it. -/
def Variable.spec (v : Variable) : Varspec := ⟨v.name, v.isExploded, v.maxLength⟩

/-- A segment as a pattern writes it. -/
def Segment.part : Segment → Part
  | .literal t => .literal t
  | .group g => .expression g.operator (g.vars.map Variable.spec)

/-- The segments of a template as a pattern writes them. -/
def Template.parts (t : Template) : List Part := t.segments.map Segment.part

private theorem isNameFrom_varchar {u : Text} (hu : IsVarchar u) (fresh : Bool) (rest : Text) :
    Variable.isNameFrom fresh (u ++ rest) = Variable.isNameFrom false rest := by
  cases hu with
  | @word c h =>
    have hdot : c ≠ '.' := by rintro rfl; revert h; decide
    have hpercent : c ≠ '%' := by rintro rfl; revert h; decide
    rw [List.singleton_append, Variable.isNameFrom, h, Bool.true_and]
    · exact hdot
    · exact fun _ _ _ he _ => hpercent he
  | triplet ha hb => simp [Variable.isNameFrom, ha, hb]

/-- What may follow a character of a name: nothing, a name, or a dot and a name. -/
private def IsVarnameTail (t : Text) : Prop :=
  t = [] ∨ IsVarname t ∨ ∃ n, t = '.' :: n ∧ IsVarname n

private theorem IsVarchar.append_tail {u t : Text} (hu : IsVarchar u) (ht : IsVarnameTail t) :
    IsVarname (u ++ t) := by
  rcases ht with rfl | hn | ⟨n, rfl, hn⟩
  · simpa only [List.append_nil] using IsVarname.single hu
  · exact .cons hu hn
  · exact .dotted hu hn

private theorem isNameFrom_sound (fresh : Bool) (t : Text)
    (h : Variable.isNameFrom fresh t = true) :
    (fresh = true → IsVarname t) ∧ (fresh = false → IsVarnameTail t) := by
  fun_induction Variable.isNameFrom fresh t with
  | case1 fresh => exact ⟨by rintro rfl; simp at h, fun _ => Or.inl rfl⟩
  | case2 fresh rest ih =>
    simp only [Bool.and_eq_true, Bool.not_eq_true'] at h
    exact ⟨by simp [h.1], fun _ => Or.inr (Or.inr ⟨rest, rfl, (ih h.2).1 rfl⟩)⟩
  | case3 fresh a b rest ih =>
    simp only [Bool.and_eq_true] at h
    have hn : IsVarname (['%', a, b] ++ rest) :=
      (IsVarchar.triplet h.1.1 h.1.2).append_tail ((ih h.2).2 rfl)
    exact ⟨fun _ => hn, fun _ => Or.inr (Or.inl hn)⟩
  | case4 fresh c rest _ _ ih =>
    simp only [Bool.and_eq_true] at h
    have hn : IsVarname ([c] ++ rest) := (IsVarchar.word h.1).append_tail ((ih h.2).2 rfl)
    exact ⟨fun _ => hn, fun _ => Or.inr (Or.inl hn)⟩

private theorem isNameFrom_complete {t : Text} (h : IsVarname t) (fresh : Bool) :
    Variable.isNameFrom fresh t = true := by
  induction h generalizing fresh with
  | @single u hu =>
    have hend := isNameFrom_varchar hu fresh []
    rwa [List.append_nil] at hend
  | cons hu _ ih => rw [isNameFrom_varchar hu, ih]
  | dotted hu _ ih =>
    rw [isNameFrom_varchar hu, Variable.isNameFrom, ih]
    rfl

/-- The check of names accepts exactly the names of the grammar. -/
theorem isName_iff (t : Text) : Variable.isName t = true ↔ IsVarname t :=
  ⟨fun h => (isNameFrom_sound true t h).1 rfl, fun h => isNameFrom_complete h true⟩

end WebLinking
