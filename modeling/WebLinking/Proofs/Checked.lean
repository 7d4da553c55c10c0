import WebLinking.Checked
import WebLinking.Proofs.Outcome

/-!
# Checks that find nothing wrong

A check of a record is sound exactly if the check of every field is, and a bounded
integer that passes its check is within the bounds.
-/

namespace WebLinking

namespace Checked

variable {α β : Type} {x : Checked α}

/-- Another form of a value is sound if the value is. -/
theorem map_eq_sound_iff {f : α → β} {b : β} :
    f <$> x = .sound b ↔ ∃ a, x = .sound a ∧ f a = b := by
  cases x with
  | sound a => simp [Functor.map, map]
  | flawed failures => simp [Functor.map, map]
  | halted fault => simp [Functor.map, map]

/-- Two checks in one record are sound if both are. -/
theorem seq_eq_sound_iff {f : Checked (α → β)} {b : β} :
    f <*> x = .sound b ↔ ∃ g, f = .sound g ∧ ∃ a, x = .sound a ∧ g a = b := by
  cases f <;> cases x <;> simp [Seq.seq, seq]

/-- The place of a field does not matter to a sound outcome. -/
theorem inField_eq_sound_iff {name : String} {a : α} :
    x.inField name = .sound a ↔ x = .sound a := by
  cases x with
  | sound a => exact Iff.rfl
  | flawed failures => simp [inField, under]
  | halted fault => simp [inField, under]

/-- A check ends in a value exactly if it is sound. -/
theorem settle_eq_ok_iff {a : α} : x.settle = .ok a ↔ x = .sound a := by
  cases x with
  | sound a => simp [settle]
  | flawed failures => simp [settle]
  | halted fault => simp [settle]

/-- A check that may end in a fault ends in a value exactly if it goes on and is sound. -/
theorem bind_settle_eq_ok_iff {x : Except Fault (Checked α)} {a : α} :
    x >>= settle = .ok a ↔ x = .ok (.sound a) := by
  rw [bind_eq_ok_iff]
  constructor
  · rintro ⟨checked, hx, hsettle⟩
    rw [hx, settle_eq_ok_iff.mp hsettle]
  · intro hx
    exact ⟨_, hx, rfl⟩

/-- A check that goes on is sound exactly if it was. -/
theorem release_eq_sound_iff {a : α} : x.release = .ok (.sound a) ↔ x = .sound a := by
  cases x with
  | sound a => simp [release]
  | flawed failures => simp [release]
  | halted fault => simp [release]

/-- A check with a further check is sound if both are. -/
theorem andThen_eq_sound_iff {check : α → Checked β} {b : β} :
    x.andThen check = .sound b ↔ ∃ a, x = .sound a ∧ check a = .sound b := by
  cases x with
  | sound a => simp [andThen]
  | flawed failures => simp [andThen]
  | halted fault => simp [andThen]

/-- A field that must be given is sound if its value is. -/
theorem required_eq_sound_iff {read : Value → Checked α} {field : Option Value} {a : α} :
    required read field = .sound a ↔ ∃ value, field = some value ∧ read value = .sound a := by
  cases field <;> simp [required, refuse]

/-- An optional field has a value exactly if it is read from another value than the absent
one. -/
theorem optional_eq_some_iff {read : Value → Checked α} {field : Option Value} {a : α} :
    optional read field = .sound (some a) ↔
      ∃ value, field = some value ∧ value.isNull = false ∧ read value = .sound a := by
  have hmap : ∀ value, ((read value).map some = .sound (some a) ↔ read value = .sound a) := by
    intro value
    cases read value <;> simp [map]
  cases field with
  | none => simp [optional]
  | some value => cases value <;> simp [optional, Value.isNull, hmap]

/-- An optional field has no value exactly if it is not given or given the absent value. -/
theorem optional_eq_none_iff {read : Value → Checked α} {field : Option Value} :
    optional read field = .sound none ↔ field = none ∨ field = some .null := by
  have hmap : ∀ value, (read value).map some ≠ .sound none := by
    intro value
    cases read value <;> simp [map]
  cases field with
  | none => simp [optional]
  | some value => cases value <;> simp [optional, hmap]

/-- An optional field that has a value was read from one. -/
theorem exists_of_optional_eq_some {read : Value → Checked α} {field : Option Value} {a : α}
    (h : optional read field = .sound (some a)) : ∃ value, read value = .sound a := by
  obtain ⟨value, -, -, hread⟩ := optional_eq_some_iff.mp h
  exact ⟨value, hread⟩

end Checked

/-- A value is a natural number exactly if it is an integer that is not negative. -/
theorem Value.asNatural_eq_sound_iff {value : Value} {n : Nat} :
    value.asNatural = .sound n ↔ value.asInteger = .sound (n : Int) := by
  have hbound : ∀ i : Int, Checked.map Int.toNat
      (if i < 0 then Checked.refuse (.belowBound 0) else .sound i) = .sound n ↔ i = n := by
    intro i
    split
    · simp only [Checked.refuse, Checked.map, reduceCtorEq, false_iff]
      omega
    · simp only [Checked.map, Checked.sound.injEq]
      omega
  cases h : value.asInteger with
  | flawed failures => simp [asNatural, asAtLeast, h, Checked.andThen, Checked.map]
  | halted fault => simp [asNatural, asAtLeast, h, Checked.andThen, Checked.map]
  | sound i => simp [asNatural, asAtLeast, h, Checked.andThen, hbound]

/-- An integer that passes a check of bounds is within them. -/
theorem Value.bounds_of_asBetween {low high n : Nat} {value : Value}
    (h : value.asBetween low high = .sound n) : low ≤ n ∧ n ≤ high := by
  obtain ⟨i, -, h⟩ := Checked.andThen_eq_sound_iff.mp h
  split at h
  · cases h
  · split at h
    · cases h
    · cases h
      omega

end WebLinking
