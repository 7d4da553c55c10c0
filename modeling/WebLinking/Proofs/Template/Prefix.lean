import WebLinking.Proofs.Percent.Reserved
import WebLinking.Proofs.Template.Flat

/-!
# Prefix lengths

A prefix length cuts the text of a scalar before it is encoded. What is written of the cut
text begins what is written of the whole one wherever the operator encodes in full. Where
triplets pass, a cut inside a triplet leaves a percent sign that is no longer part of one, and
what is written for it is not what the whole text begins with.
-/

namespace WebLinking

/-- The beginning of a text is encoded as the beginning of its encoding, unless a passing triplet is
cut. -/
theorem Operator.encode_take_isPrefix_iff {operator : Operator} {t : Text} {n : ℕ} :
    operator.encode (t.take n) <+: operator.encode t ↔
      (operator.allowsReserved = true → Percent.CutsCleanly t n) := by
  unfold Operator.encode
  cases operator.allowsReserved with
  | true =>
    simp only [if_true, true_imp_iff]
    exact Percent.isPrefix_encodeReserved_take_iff
  | false =>
    have hwhole : Percent.encodeUnreserved t =
        Percent.encodeUnreserved (t.take n) ++ Percent.encodeUnreserved (t.drop n) := by
      simp only [Percent.encodeUnreserved, ← List.flatMap_append, List.take_append_drop]
    simp [hwhole]

namespace Variable

variable {v : Variable} {s t : Text}

/-- The name in front leaves beginnings as they are, those of empty values included. -/
theorem named_isPrefix_iff : v.named s <+: v.named t ↔ s <+: t := by
  have hifEmpty : v.operator.ifEmpty = [] ∨ v.operator.ifEmpty = ['='] := by
    cases v.operator <;> simp [Operator.ifEmpty]
  unfold named
  by_cases hnamed : v.operator.isNamed = true
  · simp only [hnamed, Bool.not_true, Bool.false_eq_true, if_false]
    cases s with
    | nil =>
      cases t with
      | nil => simp
      | cons d t => rcases hifEmpty with h | h <;> simp [h]
    | cons c s =>
      cases t with
      | nil =>
        refine iff_of_false (fun h => ?_) (by simp)
        have hlength := h.length_le
        rcases hifEmpty with h | h <;>
          simp only [h, List.isEmpty_cons, List.isEmpty_nil, Bool.false_eq_true, if_true, if_false,
            List.length_append, List.length_cons, List.length_nil] at hlength <;> omega
      | cons d t => simp
  · simp [hnamed]

/-- A prefix length yields a prefix unless it cuts a triplet that the operator lets pass. -/
theorem render_isPrefix_iff (v : Variable) (n : ℕ) {value : Value}
    (hvalue : value.isScalar = true) :
    (∃ t cut whole, value.text? = some t ∧
      render { v with maxLength := some n } value = .ok (some cut) ∧
      render { v with maxLength := none } value = .ok (some whole) ∧
      (cut <+: whole ↔ (v.operator.allowsReserved = true → Percent.CutsCleanly t n)) ∧
      (t.length ≤ n → cut = whole)) ∨
    (value.text? = none ∧ render { v with maxLength := some n } value = .error .longInteger ∧
      render { v with maxLength := none } value = .error .longInteger) := by
  rw [render_of_isScalar hvalue, render_of_isScalar hvalue]
  cases htext : value.text? with
  | none => exact Or.inr ⟨rfl, rfl, rfl⟩
  | some t =>
    have hcut : writeScalar { v with maxLength := some n } t = v.named (v.encode (t.take n)) := rfl
    have hwhole : writeScalar { v with maxLength := none } t = v.named (v.encode t) := rfl
    refine Or.inl ⟨t, _, _, rfl, rfl, rfl, ?_, fun hle => ?_⟩
    · rw [hcut, hwhole, named_isPrefix_iff]
      exact Operator.encode_take_isPrefix_iff
    · rw [hcut, hwhole, List.take_of_length_le hle]

/-- Four cuts of a text with two triplets: inside each of them, between them and behind them. -/
theorem render_isPrefix_iff_triplets :
    ∃ (v : Variable) (t : Text), v.operator = .reserved ∧ t = "é%25%41".toList ∧
      render { v with maxLength := some 2 } (.text t) = .ok (some "%C3%A9%25".toList) ∧
      Percent.CutsCleanly t 2 ∧
      render { v with maxLength := some 4 } (.text t) = .ok (some "%C3%A9%25".toList) ∧
      Percent.CutsCleanly t 4 ∧
      render { v with maxLength := some 5 } (.text t) = .ok (some "%C3%A9%25%25".toList) ∧
      ¬Percent.CutsCleanly t 5 ∧
      render { v with maxLength := some 7 } (.text t) =
        render { v with maxLength := none } (.text t) := by
  let v : Variable := { name := ['v'], kind := .reserved }
  let t : Text := "é%25%41".toList
  have hcuts : ∀ n cut, render { v with maxLength := some n } (.text t) = .ok (some cut) →
      (cut <+: "%C3%A9%25%41".toList ↔ Percent.CutsCleanly t n) := by
    intro n cut hcut
    have hvalue : (Value.text t).isScalar = true := rfl
    rcases render_isPrefix_iff v n hvalue with
      ⟨u, cut', whole, ht, hcut', hwhole, hprefix, -⟩ | ⟨hnone, -⟩
    · cases ht
      cases hcut.symm.trans hcut'
      cases hwhole
      exact hprefix.trans (forall_prop_of_true rfl)
    · cases hnone
  exact ⟨v, t, rfl, rfl, rfl, (hcuts 2 _ rfl).mp (by decide), rfl, (hcuts 4 _ rfl).mp (by decide),
    rfl, mt (hcuts 5 _ rfl).mpr (by decide), rfl⟩

/-- A cut inside a triplet yields no prefix. -/
theorem exists_render_not_isPrefix :
    ∃ (v : Variable) (n : ℕ) (t cut whole : Text), v.isExploded = false ∧ 1 ≤ n ∧ n ≤ 9999 ∧
      v.operator = .reserved ∧ n = 2 ∧ t = "a%41".toList ∧
      render { v with maxLength := some n } (.text t) = .ok (some cut) ∧
      render { v with maxLength := none } (.text t) = .ok (some whole) ∧ ¬cut <+: whole :=
  ⟨{ name := ['v'], kind := .reserved }, 2, "a%41".toList, "a%25".toList, "a%41".toList, rfl,
    by decide, by decide, rfl, rfl, rfl, rfl, rfl, by decide⟩

end Variable

end WebLinking
