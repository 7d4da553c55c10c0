import WebLinking.Proofs.Percent

/-!
# Full encoding

Full encoding looks at one character at a time. An unreserved character stands for itself, and
any other one is written as the triplets of its octets, with capital digits; the percent sign
is not unreserved, so that the triplets of an encoding are those that were written. Therefore
texts are encoded one after the other, and each text is recovered from its encoding.
-/

namespace WebLinking.Percent

/-- A hexadecimal digit that is a decimal digit or a capital letter. -/
def isCapitalDigit (c : Char) : Bool := c.isDigit || ('A' ≤ c && c ≤ 'F')

/-- What full encoding writes at a time. -/
inductive IsUnit : Text → Prop
  /-- A letter or a digit, or one of four marks. -/
  | char {c : Char} (h : c.isAlphanum = true ∨ c ∈ ['-', '.', '_', '~']) : IsUnit [c]
  /-- A percent sign with two capital digits. -/
  | triplet {a b : Char} (ha : isCapitalDigit a = true) (hb : isCapitalDigit b = true) :
      IsUnit ['%', a, b]

/-- What is written for one character, unit by unit. -/
def units (c : Char) : List Text :=
  if isUnreserved c then [[c]] else (String.utf8EncodeChar c).map triplet

/-- The unreserved characters are the letters, the digits and four marks. -/
theorem isUnreserved_iff {c : Char} :
    isUnreserved c = true ↔ c.isAlphanum = true ∨ c ∈ ['-', '.', '_', '~'] := by
  simp [isUnreserved, or_assoc]

/-- Each number below sixteen is written as a capital digit. -/
theorem isCapitalDigit_hexDigit : ∀ n < 16, isCapitalDigit (Text.hexDigit 'A' n) = true := by
  decide

/-- An octet is written as one unit. -/
theorem isUnit_triplet (octet : UInt8) : IsUnit (triplet octet) := by
  obtain ⟨hhigh, hlow⟩ := halves_lt octet
  exact .triplet (isCapitalDigit_hexDigit _ hhigh) (isCapitalDigit_hexDigit _ hlow)

/-- A character is written in units. -/
theorem isUnit_of_mem_units {c : Char} {u : Text} (h : u ∈ units c) : IsUnit u := by
  unfold units at h
  split at h
  · rename_i hc
    rw [List.mem_singleton.mp h]
    exact .char (isUnreserved_iff.mp hc)
  · obtain ⟨octet, -, rfl⟩ := List.mem_map.mp h
    exact isUnit_triplet octet

/-- The units of a character are all that is written for it. -/
theorem encodeChar_eq_flatten (c : Char) : encodeChar isUnreserved c = (units c).flatten := by
  unfold encodeChar units
  split
  · rfl
  · exact List.flatMap_def

/-- The units of the characters of a text are all that is written for it. -/
theorem encodeUnreserved_eq_flatten (t : Text) :
    encodeUnreserved t = (t.flatMap units).flatten := by
  rw [encodeUnreserved, funext encodeChar_eq_flatten, List.flatMap_def, List.flatMap_def,
    List.flatten_flatten, List.map_map]
  rfl

/-- Texts are encoded one after the other. -/
theorem encodeUnreserved_append (s t : Text) :
    encodeUnreserved (s ++ t) = encodeUnreserved s ++ encodeUnreserved t :=
  List.flatMap_append

/-- Distinct texts have distinct encodings. -/
theorem encodeUnreserved_injective : Function.Injective encodeUnreserved := by
  intro s t h
  have hdecode := congrArg decode? h
  rw [decode?_encodeUnreserved, decode?_encodeUnreserved] at hdecode
  exact Option.some.inj hdecode

/-- Full encoding is reversible: its units are letters, digits, four marks and triplets, and they
stand for the text's octets. -/
theorem encodeUnreserved_reversible :
    (∀ t, ∃ us : List Text, encodeUnreserved t = us.flatten ∧ ∀ u ∈ us, IsUnit u) ∧
    (∀ t, decode? (encodeUnreserved t) = some t) ∧
    (∀ s t, encodeUnreserved (s ++ t) = encodeUnreserved s ++ encodeUnreserved t) ∧
    Function.Injective encodeUnreserved := by
  refine ⟨fun t => ?_, decode?_encodeUnreserved, encodeUnreserved_append,
    encodeUnreserved_injective⟩
  refine ⟨t.flatMap units, encodeUnreserved_eq_flatten t, fun u hu => ?_⟩
  obtain ⟨c, -, hc⟩ := List.mem_flatMap.mp hu
  exact isUnit_of_mem_units hc

/-- Characters of one, two, three and four octets, and a percent sign in the data. -/
example : encodeUnreserved "~%é€😀".toList = "~%25%C3%A9%E2%82%AC%F0%9F%98%80".toList := by decide

end WebLinking.Percent
