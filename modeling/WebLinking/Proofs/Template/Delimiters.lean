import WebLinking.Proofs.Percent
import WebLinking.Proofs.Template.Composition
import WebLinking.Proofs.Template.Expansion

/-!
# The delimiters of an expansion

Values cannot bring delimiters into an expression. Whatever they are, an expression writes
unreserved characters, triplets and the few delimiters of its own, and lets the reserved
characters of its values pass only where its operator says so.
-/

namespace WebLinking

open Percent (IsEncoded)

namespace Operator

/-- The delimiters that an expression writes of its own accord. -/
def delimiters (operator : Operator) : List Char :=
  [',', '='] ++ operator.first ++ [operator.separator]

/-- The characters that stand unencoded in an expression. -/
def passes (operator : Operator) (c : Char) : Bool :=
  Percent.isUnreserved c ||
    if operator.allowsReserved then Percent.isReserved c else operator.delimiters.contains c

variable {operator : Operator} {c : Char}

/-- Unreserved characters pass everywhere. -/
theorem passes_of_isUnreserved (h : Percent.isUnreserved c = true) : operator.passes c = true := by
  rw [passes, h, Bool.true_or]

/-- The delimiters of an expression pass, reserved characters or not. -/
theorem passes_of_mem_delimiters (h : c ∈ operator.delimiters) : operator.passes c = true := by
  have hall : operator.delimiters.all operator.passes = true := by
    cases operator <;> decide
  exact List.all_eq_true.mp hall c h

theorem passes_comma (operator : Operator) : operator.passes ',' = true :=
  passes_of_mem_delimiters (by simp [delimiters])

theorem passes_equals (operator : Operator) : operator.passes '=' = true :=
  passes_of_mem_delimiters (by simp [delimiters])

theorem passes_separator (operator : Operator) : operator.passes operator.separator = true :=
  passes_of_mem_delimiters (by simp [delimiters])

/-- The mark of an operator passes. -/
theorem isEncoded_first (operator : Operator) : IsEncoded operator.passes operator.first :=
  .of_forall fun c hc => passes_of_mem_delimiters (by simp [delimiters, hc])

/-- Only unreserved and reserved characters pass. -/
theorem isPlain_of_passes (h : operator.passes c = true) : Percent.isPlain c = true := by
  have hall : operator.delimiters.all Percent.isPlain = true := by
    cases operator <;> decide
  unfold passes at h
  rcases Bool.or_eq_true_iff.mp h with h | h
  · rw [Percent.isPlain, h, Bool.true_or]
  · split at h
    · rw [Percent.isPlain, h, Bool.or_true]
    · exact List.all_eq_true.mp hall c (List.contains_iff_mem.mp h)

/-- A reserved character that passes is a delimiter of the expression, unless the operator
lets all of them pass. -/
theorem mem_delimiters_of_passes (hoperator : operator.allowsReserved = false)
    (hc : Percent.isReserved c = true) (h : operator.passes c = true) :
    c ∈ operator.delimiters := by
  obtain ⟨hunreserved, -⟩ := Percent.not_unreserved_of_isReserved hc
  rw [passes, hunreserved, Bool.false_or, hoperator] at h
  exact List.contains_iff_mem.mp h

/-- An operator encodes texts to what passes. -/
theorem isEncoded_encode (operator : Operator) (t : Text) :
    IsEncoded operator.passes (operator.encode t) := by
  unfold encode
  split
  · rename_i hreserved
    refine (Percent.isEncoded_encodeReserved t).mono fun c hc => ?_
    rwa [passes, hreserved, if_pos rfl]
  · exact (Percent.isEncoded_encodeUnreserved t).mono fun c hc => passes_of_isUnreserved hc

end Operator

private theorem IsVarchar.isEncoded {u : Text} (hu : IsVarchar u) :
    IsEncoded Percent.isUnreserved u := by
  cases hu with
  | @word c h =>
    refine .char ?_ .nil
    rcases Bool.or_eq_true_iff.mp h with h | h
    · simp [Percent.isUnreserved, h]
    · simp [Percent.isUnreserved, h]
  | triplet ha hb => exact .triplet ha hb .nil

/-- A name has no need of encoding. -/
theorem IsVarname.isEncoded {n : Text} (hn : IsVarname n) : IsEncoded Percent.isUnreserved n := by
  induction hn with
  | single hu => exact hu.isEncoded
  | cons hu _ ih => exact hu.isEncoded.append ih
  | dotted hu _ ih => exact hu.isEncoded.append (.char (by decide) ih)

namespace Variable

variable {v : Variable} {encoded : Text}

private theorem isEncoded_ifEmpty_of {allowed : Char → Bool} (hequals : allowed '=' = true)
    (operator : Operator) : IsEncoded allowed operator.ifEmpty := by
  cases operator <;> first | exact .nil | exact .char hequals .nil

/-- A name in front of an encoded value leaves it encoded. -/
theorem isEncoded_named {allowed : Char → Bool} (hequals : allowed '=' = true)
    (hname : IsEncoded allowed v.name) (h : IsEncoded allowed encoded) :
    IsEncoded allowed (v.named encoded) := by
  unfold named
  split
  · exact h
  · split
    · exact hname.append (isEncoded_ifEmpty_of hequals v.operator)
    · exact hname.append (.char hequals h)

/-- An equals sign between an encoded key and an encoded value leaves them encoded. -/
theorem isEncoded_explodedPair {allowed : Char → Bool} (hequals : allowed '=' = true)
    {pair : Text × Text} (hkey : IsEncoded allowed (v.encode pair.1))
    (hvalue : IsEncoded allowed (v.encode pair.2)) : IsEncoded allowed (v.explodedPair pair) := by
  unfold explodedPair
  split
  · exact hkey.append (isEncoded_ifEmpty_of hequals v.operator)
  · exact hkey.append (.char hequals hvalue)

/-- Whatever is defined of a value is written in encoded form. -/
theorem isEncoded_write (hname : IsVarname v.name) (d : Datum) :
    IsEncoded v.operator.passes (v.write d) := by
  have hname : IsEncoded v.operator.passes v.name :=
    hname.isEncoded.mono fun c hc => Operator.passes_of_isUnreserved hc
  have hencode := v.operator.isEncoded_encode
  have hequals := v.operator.passes_equals
  have hcomma := v.operator.passes_comma
  have hseparator := v.operator.passes_separator
  cases d with
  | scalar t => exact isEncoded_named hequals hname (hencode _)
  | members items =>
    simp only [write, writeItems]
    split
    · refine .joinWith hseparator fun piece hpiece => ?_
      obtain ⟨item, -, rfl⟩ := List.mem_map.mp hpiece
      exact isEncoded_named hequals hname (hencode item)
    · refine isEncoded_named hequals hname (.joinWith hcomma fun piece hpiece => ?_)
      obtain ⟨item, -, rfl⟩ := List.mem_map.mp hpiece
      exact hencode item
  | entries pairs =>
    simp only [write, writePairs]
    split
    · refine .joinWith hseparator fun piece hpiece => ?_
      obtain ⟨pair, -, rfl⟩ := List.mem_map.mp hpiece
      exact isEncoded_explodedPair hequals (hencode pair.1) (hencode pair.2)
    · refine isEncoded_named hequals hname (.joinWith hcomma fun piece hpiece => ?_)
      obtain ⟨pair, -, rfl⟩ := List.mem_map.mp hpiece
      exact (hencode pair.1).append (.char hcomma (hencode pair.2))

end Variable

/-- An expression writes its mark, its separators and what its variables write. -/
theorem Group.isEncoded_expand {g : Group} (huniform : g.IsUniform)
    (hnames : ∀ v ∈ g.vars, IsVarname v.name) {lookup : Text → Value} {u : Text}
    (h : g.expand lookup = .ok u) : IsEncoded g.operator.passes u := by
  rw [expand_eq] at h
  cases hparts : Variable.renderings g.vars lookup with
  | error fault =>
    rw [hparts] at h
    cases h
  | ok parts =>
    rw [hparts] at h
    cases h
    have hencoded : ∀ part ∈ parts, IsEncoded g.operator.passes part := by
      intro part hpart
      rw [Variable.eq_of_renderings hparts] at hpart
      obtain ⟨v, hv, hwrite⟩ := List.mem_filterMap.mp hpart
      obtain ⟨d, -, rfl⟩ := Option.map_eq_some_iff.mp hwrite
      rw [← huniform v hv]
      exact Variable.isEncoded_write (hnames v hv) d
    unfold Operator.joined
    split
    · exact .nil
    · exact g.operator.isEncoded_first.append (.joinWith g.operator.passes_separator hencoded)

namespace Template

/-- An expression writes encoded characters and delimiters of its own, unless its operator lets
reserved characters pass. -/
theorem expand_delimited {p : Text} {t : Template} (hparse : parse p = .ok t)
    {values arguments : Bindings} {s : Text} (hexpand : t.expand values arguments = .ok s)
    {g : Group} (hg : Segment.group g ∈ t.segments) :
    ∃ u, g.expand (Bindings.effective values arguments) = .ok u ∧
      IsEncoded Percent.isPlain u ∧
      (g.operator ≠ .reserved → g.operator ≠ .fragment →
        ∀ c ∈ u, Percent.isReserved c = true →
          c = ',' ∨ c = '=' ∨ c ∈ g.operator.first ∨ c = g.operator.separator) := by
  have hreadable := IsReadable.of_parse hparse
  obtain ⟨u, hu, -⟩ := exists_expand_of_mem hg hexpand
  have hencoded : IsEncoded g.operator.passes u :=
    Group.isEncoded_expand (hreadable.uniform g hg)
      (fun v hv => (hreadable.wellFormed_of_mem hg hv).name) hu
  refine ⟨u, hu, hencoded.mono fun c hc => Operator.isPlain_of_passes hc, ?_⟩
  intro hreserved hfragment c hc hdelimiter
  have hoperator : g.operator.allowsReserved = false := by
    cases hop : g.operator <;> rw [hop] at hreserved hfragment <;>
      first | rfl | exact absurd rfl hreserved | exact absurd rfl hfragment
  have hmem : c ∈ g.operator.delimiters := by
    obtain ⟨-, hpercent, hnodigit⟩ := Percent.not_unreserved_of_isReserved hdelimiter
    rcases hencoded.allowed_or_of_mem hc with hpasses | he | hdigit
    · exact Operator.mem_delimiters_of_passes hoperator hdelimiter hpasses
    · exact absurd he hpercent
    · rw [hnodigit] at hdigit
      cases hdigit
  simpa [Operator.delimiters] using hmem

/-- The keys and values of a mapping, and a value that is cut within a triplet. -/
theorem expand_delimited_mapping :
    ∃ (t : Template) (values : Bindings) (g : Group),
      parse "\x7b+a:2\x7d\x7b?b*\x7d".toList = .ok t ∧ Segment.group g ∈ t.segments ∧
      t.expand values [] = .ok "/%25?k%26%3D=%C3%BC%23".toList ∧ g.operator = .query ∧
      ∃ u, g.expand (Bindings.effective values []) = .ok u ∧ IsEncoded Percent.isPlain u ∧
        (g.operator ≠ .reserved → g.operator ≠ .fragment →
          ∀ c ∈ u, Percent.isReserved c = true →
            c = ',' ∨ c = '=' ∨ c ∈ g.operator.first ∨ c = g.operator.separator) := by
  let values : Bindings := [("a".toList, .text "/%41".toList),
    ("b".toList, .mapping [(.text "k&=".toList, .text "ü#".toList)])]
  let v : Variable := { name := "a".toList, kind := .reserved, maxLength := some 2 }
  let g : Group := ⟨.query, [{ name := "b".toList, kind := .list }]⟩
  let t : Template := ⟨[.group ⟨.reserved, [v]⟩, .group g]⟩
  have hparse : parse "\x7b+a:2\x7d\x7b?b*\x7d".toList = .ok t := rfl
  have hexpand : t.expand values [] = .ok "/%25?k%26%3D=%C3%BC%23".toList := by decide
  have hg : Segment.group g ∈ t.segments := List.mem_cons_of_mem _ List.mem_cons_self
  exact ⟨t, values, g, hparse, hg, hexpand, rfl, expand_delimited hparse hexpand hg⟩

end Template

end WebLinking
