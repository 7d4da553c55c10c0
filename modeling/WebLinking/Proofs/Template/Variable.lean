import WebLinking.Proofs.Checked
import WebLinking.Proofs.OrderedSet
import WebLinking.Proofs.Template.Reading
import WebLinking.Template.Rendering

/-!
# Variables that can be made

A variable comes from a check of fields or from an operation on such a variable. Whatever
its kind and its modifiers are, it is written as the grammar writes a name, and what it
renders depends only on its operator and on what is written.
-/

namespace WebLinking

namespace Variable

private theorem record_eq_sound_iff {name : Checked Text} {kind : Checked VariableKind}
    {description : Checked (Option Text)} {explode : Checked Bool}
    {maxLength : Checked (Option Nat)} {v : Variable} :
    (mk <$> name.inField "name" <*> kind.inField "type" <*> description.inField "description" <*>
        explode.inField "explode" <*> maxLength.inField "max_length") = .sound v ↔
      name = .sound v.name ∧ kind = .sound v.kind ∧ description = .sound v.description ∧
        explode = .sound v.explode ∧ maxLength = .sound v.maxLength := by
  simp only [Checked.seq_eq_sound_iff, Checked.map_eq_sound_iff, Checked.inField_eq_sound_iff]
  constructor
  · rintro ⟨-, ⟨-, ⟨-, ⟨-, ⟨n, hn, rfl⟩, k, hk, rfl⟩, d, hd, rfl⟩, e, he, rfl⟩, m, hm, rfl⟩
    exact ⟨hn, hk, hd, he, hm⟩
  · rintro ⟨hn, hk, hd, he, hm⟩
    exact ⟨_, ⟨_, ⟨_, ⟨_, ⟨_, hn, rfl⟩, _, hk, rfl⟩, _, hd, rfl⟩, _, he, rfl⟩, _, hm, rfl⟩

private theorem settle_unless_conflict {x : Checked Variable} {fault : Fault} {v : Variable} :
    (do let w ← x.settle
        if w.hasConflict then throw fault
        return w) = .ok v ↔ x = .sound v ∧ v.hasConflict = false := by
  rw [bind_eq_ok_iff, ← Checked.settle_eq_ok_iff]
  constructor
  · rintro ⟨w, hw, h⟩
    split at h
    · cases h
    · rename_i hconflict
      cases h
      exact ⟨hw, Bool.eq_false_iff.mpr hconflict⟩
  · rintro ⟨hv, hconflict⟩
    exact ⟨v, hv, by rw [hconflict]; rfl⟩

/-- Fields make a variable exactly if each passes its check, the name is one and the modifiers
agree. -/
theorem check_eq_ok_iff {fields : Fields} {v : Variable} :
    check fields = .ok v ↔
      (Checked.required Value.asText (fields.get? "name".toList) = .sound v.name ∧
        Checked.withDefault .simple VariableKind.check (fields.get? "type".toList) =
          .sound v.kind ∧
        Checked.optional Value.asText (fields.get? "description".toList) =
          .sound v.description ∧
        Checked.withDefault false Value.asBoolean (fields.get? "explode".toList) =
          .sound v.explode ∧
        Checked.optional (Value.asBetween 1 9999) (fields.get? "max_length".toList) =
          .sound v.maxLength) ∧
      isName v.name = true ∧ v.hasConflict = false := by
  unfold check
  rw [← record_eq_sound_iff]
  cases hname : Checked.required Value.asText (fields.get? "name".toList) with
  | flawed _ | halted _ =>
    constructor
    · intro h
      obtain ⟨hsound, -⟩ := settle_unless_conflict.mp h
      cases (record_eq_sound_iff.mp hsound).1
    · rintro ⟨hsound, -⟩
      cases (record_eq_sound_iff.mp hsound).1
  | sound t =>
    by_cases ht : isName t = true
    · change ((if (!isName t) = true then _ else _ : Except Fault Variable) = .ok v ↔ _)
      rw [if_neg (by simp [ht])]
      refine settle_unless_conflict.trans (and_congr_right fun hsound => ?_)
      cases (record_eq_sound_iff.mp hsound).1
      rw [ht]
      simp
    · change ((if (!isName t) = true then _ else _ : Except Fault Variable) = .ok v ↔ _)
      rw [if_pos (by simp [ht])]
      constructor
      · intro h
        cases h
      · rintro ⟨hsound, hv, -⟩
        cases (record_eq_sound_iff.mp hsound).1
        exact absurd hv ht

/-- The variables of patterns and of checked fields, and what the operations make of them. -/
inductive Constructible : Variable → Prop
  /-- From a pattern. -/
  | read {p : Text} {t : Template} {v : Variable} (h : Template.parse p = .ok t)
      (hv : v ∈ t.vars) : Constructible v
  /-- From fields as a caller wrote them. -/
  | checked {fields : Fields} {v : Variable} (h : check fields = .ok v) : Constructible v
  /-- With another description. -/
  | withDescription {v : Variable} (hv : Constructible v) (description : Option Text) :
      Constructible (v.withDescription description)
  /-- With an explode mark. -/
  | withExplode {v w : Variable} (hv : Constructible v) (h : v.withExplode = .ok w) :
      Constructible w
  /-- With another prefix length or with none. -/
  | withMaxLength {v w : Variable} {maxLength : Value} (hv : Constructible v)
      (h : v.withMaxLength maxLength = .ok w) : Constructible w
  /-- For use after a query has begun. -/
  | asContinued {v : Variable} (hv : Constructible v) : Constructible v.asContinued

/-- A checked variable is written as the grammar writes a name. -/
theorem wellFormed_of_check {fields : Fields} {v : Variable} (h : check fields = .ok v) :
    v.spec.IsWellFormed := by
  obtain ⟨⟨-, -, -, -, hmaxLength⟩, hname, hconflict⟩ := check_eq_ok_iff.mp h
  refine ⟨(isName_iff v.name).mp hname, ?_, ?_⟩
  · intro n hn
    have hn : v.maxLength = some n := hn
    rw [hn] at hmaxLength
    obtain ⟨value, hvalue⟩ := Checked.exists_of_optional_eq_some hmaxLength
    exact Value.bounds_of_asBetween hvalue
  · intro hexploded
    have hexploded : v.isExploded = true := hexploded
    rw [hasConflict, hexploded, Bool.and_true] at hconflict
    exact Option.not_isSome_iff_eq_none.mp (Bool.eq_false_iff.mp hconflict)

/-- A variable of a pattern is written as the grammar writes a name. -/
theorem wellFormed_of_parse {p : Text} {t : Template} {v : Variable}
    (h : Template.parse p = .ok t) (hv : v ∈ t.vars) : v.spec.IsWellFormed := by
  obtain ⟨s, hs, hvs⟩ := List.mem_flatMap.mp (OrderedSet.mem_of_mem_ofList hv)
  have hpart := (Template.decomposes_of_parse h).wellFormed s.part (List.mem_map_of_mem hs)
  cases s with
  | literal t => cases hvs
  | group g =>
    cases hpart with
    | expression _ hspecs => exact hspecs v.spec (List.mem_map_of_mem hvs)

/-- A continued variable is written as before. -/
@[simp] theorem spec_asContinued (v : Variable) : v.asContinued.spec = v.spec := by
  obtain ⟨name, kind, description, explode, maxLength⟩ := v
  cases kind <;> rfl

/-- Every variable that can be made is written as the grammar writes a name. -/
theorem Constructible.wellFormed {v : Variable} (hv : v.Constructible) : v.spec.IsWellFormed := by
  induction hv with
  | read h hv => exact wellFormed_of_parse h hv
  | checked h => exact wellFormed_of_check h
  | withDescription _ _ ih => exact ih
  | @withExplode v w _ h ih =>
    unfold Variable.withExplode at h
    split at h
    · cases h
    · rename_i hnone
      cases h
      have hnone := Option.not_isSome_iff_eq_none.mp hnone
      exact ⟨ih.name, fun n hn => ih.bounds n hn, fun _ => hnone⟩
  | withMaxLength _ h _ => exact wellFormed_of_check h
  | @asContinued v _ ih => rwa [spec_asContinued]

end Variable

/-- Two operators write values in the same way; what comes first may differ. -/
structure Operator.WritesLike (operator other : Operator) : Prop where
  /-- The same character stands between two values. -/
  separator : operator.separator = other.separator
  /-- Both write names, or neither does. -/
  isNamed : operator.isNamed = other.isNamed
  /-- The same mark follows the name of an empty value. -/
  ifEmpty : operator.ifEmpty = other.ifEmpty
  /-- The same characters pass unencoded. -/
  allowsReserved : operator.allowsReserved = other.allowsReserved

/-- An operator writes like itself. -/
theorem Operator.WritesLike.of_eq {operator other : Operator} (h : operator = other) :
    operator.WritesLike other := by
  subst h
  exact ⟨rfl, rfl, rfl, rfl⟩

namespace Variable

/-- Variables that are written alike, by operators that write alike, render alike. -/
theorem render_congr {v w : Variable} (hspec : v.spec = w.spec)
    (hwrites : v.operator.WritesLike w.operator) : v.render = w.render := by
  obtain ⟨hname, hexploded, hmaxLength⟩ :
      v.name = w.name ∧ v.isExploded = w.isExploded ∧ v.maxLength = w.maxLength := by
    simpa only [spec, Varspec.mk.injEq] using hspec
  obtain ⟨hseparator, hisNamed, hifEmpty, hreserved⟩ := hwrites
  have hobstacle : ∀ {α : Type} (o : Obstacle), (v.obstacle o : Except Fault α) = w.obstacle o :=
    fun o => by rw [obstacle, obstacle, hname]
  have hmember : v.memberText = w.memberText := by
    funext value
    cases value <;> simp only [memberText, hobstacle]
  have hpair : v.pairTexts = w.pairTexts := by
    funext entry
    rw [pairTexts, pairTexts, hmember]
  have hencode : v.encode = w.encode := by
    funext t
    rw [encode, encode, Operator.encode, Operator.encode, hreserved]
  have hnamed : v.named = w.named := by
    funext t
    rw [named, named, hisNamed, hname, hifEmpty]
  have hscalar : v.writeScalar = w.writeScalar := by
    funext t
    simp only [writeScalar, hnamed, hencode, hmaxLength]
  have hexplodedPair : v.explodedPair = w.explodedPair := by
    funext pair
    simp only [explodedPair, hencode, hifEmpty, hisNamed]
  have hitems : v.writeItems = w.writeItems := by
    funext items
    simp only [writeItems, hexploded, hseparator, hnamed, hencode]
  have hpairs : v.writePairs = w.writePairs := by
    funext pairs
    simp only [writePairs, hexploded, hseparator, hnamed, hencode, hexplodedPair]
  funext value
  cases value <;>
    simp only [render, writeMembers, entryTexts, itemTexts, hobstacle, hmember, hpair, hscalar,
      hitems, hpairs, hmaxLength]

/-- A continued query parameter has the operator of continuations. -/
theorem operator_asContinued {v : Variable} (h : v.operator = .query) :
    v.asContinued.operator = .continuation := by
  obtain ⟨name, kind, description, explode, maxLength⟩ := v
  cases kind <;> first | rfl | cases h

/-- A query parameter renders alike whether it begins the query or continues it. -/
theorem render_asContinued {v : Variable} (h : v.operator = .query) :
    v.asContinued.render = v.render := by
  refine render_congr v.spec_asContinued ?_
  rw [operator_asContinued h, h]
  exact ⟨rfl, rfl, rfl, rfl⟩

end Variable

end WebLinking
