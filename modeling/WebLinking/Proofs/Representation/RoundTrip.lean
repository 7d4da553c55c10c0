import WebLinking.Proofs.Link.WellFormed
import WebLinking.Proofs.Page.Consistency
import WebLinking.Proofs.Representation.Change

/-!
# Representations read back from their records

The record of a representation leaves out the type of its elements, and reading it checks
everything again. A representation that was made of well-formed links and of a consistent
page, and that was changed by well-formed links since, passes these checks as it is: it comes
back with the same links and the same payload, and with the type of the first element. A
record can be written only of values that do not have too many levels.
-/

namespace WebLinking

/-- The type of elements is that of the first one, if there is one. -/
def ElementType.FollowsFrom (items : List Value) (elementType : Option ElementType) : Prop :=
  items ≠ [] → elementType = ofFirst? items

/-- What is checked of the type of elements follows from them. -/
theorem ElementType.followsFrom_of_checkType {items : List Value} {fallback : TypeInput}
    {elementType : Option ElementType}
    (h : Representation.checkType items fallback = .sound elementType) :
    FollowsFrom items elementType := by
  intro hne
  obtain ⟨first, rest, rfl⟩ := List.exists_cons_of_ne_nil hne
  exact (Checked.sound.inj (Checked.inField_eq_sound_iff.mp h)).symm

namespace Payload

/-- A payload that passes the checks of a record. -/
def IsSound : Payload → Prop
  | .bare => True
  | .entity content => content.isNull = false
  | .collection items elementType => ElementType.FollowsFrom items elementType
  | .paged items elementType page =>
    ElementType.FollowsFrom items elementType ∧ ∀ p ∈ page, p.IsConsistent
  | .sliced items elementType page =>
    ElementType.FollowsFrom items elementType ∧ ∀ p ∈ page, p.IsConsistent ∧ p.isCounted = false

/-- The payload with the type of its first element. -/
def retyped (payload : Payload) : Payload :=
  payload.withElementType ((payload.items?.getD []).head?.map ElementType.of)

/-- A sound payload whose elements are given a type for want of one is sound. -/
theorem IsSound.withElementType {payload : Payload} (h : payload.IsSound)
    (hnone : payload.elementType? = none) (elementType : ElementType) :
    (payload.withElementType (some elementType)).IsSound := by
  have hempty : ∀ {items : List Value}, ElementType.FollowsFrom items none →
      ElementType.FollowsFrom items (some elementType) := by
    intro items hitems hne
    obtain ⟨first, rest, rfl⟩ := List.exists_cons_of_ne_nil hne
    cases hitems hne
  cases payload with
  | bare => trivial
  | entity content => exact h
  | collection items type =>
    cases hnone
    exact hempty h
  | paged items type page =>
    cases hnone
    exact ⟨hempty h.1, h.2⟩
  | sliced items type page =>
    cases hnone
    exact ⟨hempty h.1, h.2⟩

end Payload

namespace Representation

/-- The records of well-formed links of which no two count as equal give these links. -/
theorem checkLinks_toValue {links : List Link} (h : ∀ l ∈ links, l.IsWellFormed)
    (hpairwise : links.Pairwise fun k l => k.sameAs l = false) :
    checkLinks (some (.list (links.map Link.toValue))) = .ok (.sound links) := by
  have hread : List.Forall₂ (fun value l => Link.ofRecord value = .ok l)
      (links.map Link.toValue) links :=
    List.forall₂_map_left_iff.mpr (List.forall₂_same.mpr fun l hl => (h l hl).ofRecord_toValue)
  rw [checkLinks_eq_sound (Or.inl rfl) hread, OrderedSet.ofList_of_pairwise hpairwise]

/-- Fields that describe a page give this page. -/
theorem checkPage_mapping {place : Fields} {p : Page} (h : Page.ofFields place = .ok p) :
    checkPage (some (.mapping place)) = .ok (.sound (some p)) := by
  rw [checkPage, Checked.bind_settle_eq_ok_iff.mp h]
  rfl

/-- The record of a consistent page gives this page. -/
theorem checkPage_toValue {page : Option Page} (h : ∀ p ∈ page, p.IsConsistent) :
    checkPage (some ((page.map Page.toValue).getD .null)) = .ok (.sound page) := by
  cases page with
  | none => rfl
  | some p => exact checkPage_mapping (h p rfl).ofFields_fields

/-- A slice has the place that is given if this comes without counts. -/
theorem checkSlice_eq_sound_iff {page page' : Option Page} :
    checkSlice page = .sound page' ↔ page' = page ∧ ∀ p ∈ page, p.isCounted = false := by
  cases page with
  | none =>
    constructor
    · intro h
      exact ⟨(Checked.sound.inj h).symm, by simp⟩
    · rintro ⟨rfl, -⟩
      rfl
  | some p =>
    unfold checkSlice
    split
    · rename_i hcounted
      constructor
      · intro h
        cases h
      · rintro ⟨-, huncounted⟩
        exact absurd hcounted (Bool.eq_false_iff.mp (huncounted p rfl))
    · rename_i hcounted
      constructor
      · intro h
        refine ⟨(Checked.sound.inj h).symm, fun q hq => ?_⟩
        cases hq
        exact Bool.eq_false_iff.mpr hcounted
      · rintro ⟨rfl, -⟩
        rfl

/-- A representation that passes the checks of a record. -/
structure IsRecordable (m : Representation) : Prop where
  /-- It says its kind. -/
  label : m.label = .text m.kind.text
  /-- Its links are well formed. -/
  links : ∀ l ∈ m.links, l.IsWellFormed
  /-- No two of its links count as equal. -/
  pairwise : m.links.Pairwise fun k l => k.sameAs l = false
  /-- Its payload is sound. -/
  payload : m.payload.IsSound

/-- The representation with the type of its first element. -/
def retyped (m : Representation) : Representation := { m with payload := m.payload.retyped }

/-- Elements for which no type is given have that of the first one. -/
theorem check_orFirst_absent (items : List Value) :
    (TypeInput.orFirst items .absent).check = .sound (ElementType.ofFirst? items) := by
  cases items <;> rfl

/-- A sound payload is read back from its fields with the type of its first element. -/
theorem checkPayload_fields {m : Representation} (h : m.payload.IsSound) :
    checkPayload m.kind m.fields .absent = .ok (.sound m.payload.retyped) := by
  obtain ⟨payload, links, label⟩ := m
  cases payload with
  | bare => rfl
  | entity content =>
    have hcontent : checkContent (some content) = .ok (.sound content) := by
      cases content <;> first | rfl | cases h
    exact bind_eq_ok_iff.mpr ⟨_, hcontent, rfl⟩
  | collection items elementType =>
    refine bind_eq_ok_iff.mpr ⟨(some (.tuple items), TypeInput.orFirst items .absent), rfl, ?_⟩
    dsimp only
    rw [check_orFirst_absent]
    rfl
  | paged items elementType page =>
    refine bind_eq_ok_iff.mpr ⟨(some (.tuple items), TypeInput.orFirst items .absent), rfl,
      bind_eq_ok_iff.mpr ⟨_, checkPage_toValue h.2, ?_⟩⟩
    dsimp only
    rw [check_orFirst_absent]
    rfl
  | sliced items elementType page =>
    have hslice := checkSlice_eq_sound_iff.mpr ⟨rfl, fun p hp => (h.2 p hp).2⟩
    refine bind_eq_ok_iff.mpr ⟨(some (.tuple items), TypeInput.orFirst items .absent), rfl,
      bind_eq_ok_iff.mpr ⟨_, checkPage_toValue fun p hp => (h.2 p hp).1, ?_⟩⟩
    dsimp only [Checked.andThen]
    rw [check_orFirst_absent, hslice]
    rfl

/-- A recordable representation is read back from its fields with the type of its first
element. -/
theorem IsRecordable.ofFields_fields {m : Representation} (h : m.IsRecordable) :
    ofFields m.kind m.fields .absent = .ok m.retyped := by
  have hpayload := checkPayload_fields h.payload
  have hlinks := checkLinks_toValue h.links h.pairwise
  have hkind : checkKind m.kind (some m.label) = .sound () := by
    rw [h.label]
    exact if_pos rfl
  have hretyped : m.payload.retyped.kind = m.kind := m.payload.kind_withElementType _
  refine ofFields_eq_ok_iff.mpr ⟨hkind, hlinks, hpayload, ?_⟩
  rw [retyped, hretyped]
  exact h.label

end Representation

/-- A change brings well-formed links only. -/
def Change.IsWellFormed (c : Change) : Prop := ∀ l ∈ c.links, l.IsWellFormed

instance (c : Change) : Decidable c.IsWellFormed :=
  inferInstanceAs (Decidable (∀ l ∈ c.links, l.IsWellFormed))

namespace Representation

/-- A change by well-formed links keeps a representation recordable. -/
theorem IsRecordable.changed {m : Representation} (h : m.IsRecordable) {c : Change}
    (hc : c.IsWellFormed) : (m.changed c).IsRecordable := by
  have hpairwise := pairwise_changed h.pairwise c
  rcases changed_cases m c with heq | ⟨keep, heq⟩ | ⟨elementType, hnone, heq⟩ | heq
  all_goals rw [heq] at hpairwise ⊢
  · refine ⟨h.label, fun l hl => ?_, hpairwise, h.payload⟩
    rcases OrderedSet.mem_insertAll hl with hold | hnew
    · exact h.links l hold
    · exact hc l hnew
  · exact ⟨h.label, fun l hl => h.links l (List.mem_of_mem_filter hl), hpairwise, h.payload⟩
  · refine ⟨?_, h.links, hpairwise, h.payload.withElementType hnone elementType⟩
    rw [kind, Payload.kind_withElementType]
    exact h.label
  · exact h

end Representation

end WebLinking
