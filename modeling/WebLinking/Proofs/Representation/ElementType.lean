import WebLinking.Proofs.Representation.RoundTrip

/-!
# The type of elements

Elements have a type as soon as there are any: it is given, or it is that of the first one. Only
a representation without elements may be built without a type, and then the first type that it is
offered stays. No change of links touches the type, and taking a type touches nothing else.
-/

namespace WebLinking

/-- Elements that are there have a type. -/
def Payload.IsTyped (payload : Payload) : Prop :=
  ∀ items, payload.items? = some items → items ≠ [] → payload.elementType?.isSome = true

namespace Representation

/-- The type of elements that are read is given or is that of the first one. -/
theorem isSome_of_inferType {given content : Option Value} {input input' : TypeInput}
    {items : List Value} {elementType : Option ElementType}
    (hinfer : inferType given input = .ok (content, input'))
    (hitems : (checkItems content).inField "content" = .sound items)
    (htype : input'.check.inField "element_type" = .sound elementType) (hne : items ≠ []) :
    elementType.isSome = true := by
  rw [Checked.inField_eq_sound_iff] at hitems htype
  unfold inferType at hinfer
  split at hinfer
  · cases hinfer
    cases hitems
  · obtain ⟨members, -, h⟩ := bind_eq_ok_iff.mp hinfer
    cases h
    cases hitems
    rw [check_orFirst_absent] at htype
    cases htype
    obtain ⟨first, rest, rfl⟩ := List.exists_cons_of_ne_nil hne
    rfl
  · -- The input stands as it is, so there is a type, or there is nothing that could have one.
    rename_i hnotGiven
    cases hinfer
    cases hinput : input with
    | absent =>
      cases hcontent : given with
      | none =>
        rw [hcontent] at hitems
        cases hitems
        exact absurd rfl hne
      | some value => exact (hnotGiven value hinput hcontent).elim
    | given elementType =>
      rw [hinput] at htype
      cases htype
      rfl
    | other =>
      rw [hinput] at htype
      cases htype

/-- Elements and their type are read together, and what is made of them has both. -/
theorem exists_typed_of_inferType {α : Type} {make : List Value → Option ElementType → α} {a : α}
    {given content : Option Value} {input input' : TypeInput}
    (hinfer : inferType given input = .ok (content, input'))
    (h : make <$> (checkItems content).inField "content" <*>
      input'.check.inField "element_type" = .sound a) :
    ∃ items elementType, a = make items elementType ∧
      (items ≠ [] → elementType.isSome = true) := by
  obtain ⟨_, hcontent, elementType, htype, rfl⟩ := Checked.seq_eq_sound_iff.mp h
  obtain ⟨items, hitems, rfl⟩ := Checked.map_eq_sound_iff.mp hcontent
  exact ⟨items, elementType, rfl, isSome_of_inferType hinfer hitems htype⟩

/-- Elements that are read from a record have a type. -/
theorem isTyped_of_checkPayload {kind : RepresentationKind} {fields : Fields}
    {elementType : TypeInput} {payload : Payload}
    (h : checkPayload kind fields elementType = .ok (.sound payload)) : payload.IsTyped := by
  cases kind with
  | representation =>
    cases h
    exact nofun
  | entity =>
    obtain ⟨content, -, h⟩ := bind_eq_ok_iff.mp h
    obtain ⟨content, -, rfl⟩ := Checked.map_eq_sound_iff.mp (Except.ok.inj h)
    exact nofun
  | collection =>
    obtain ⟨⟨content, input⟩, hinfer, h⟩ := bind_eq_ok_iff.mp h
    obtain ⟨items, elementType, rfl, htyped⟩ :=
      exists_typed_of_inferType hinfer (Except.ok.inj h)
    rintro _ ⟨⟩ hne
    exact htyped hne
  | paged =>
    obtain ⟨⟨content, input⟩, hinfer, h⟩ := bind_eq_ok_iff.mp h
    obtain ⟨page, -, h⟩ := bind_eq_ok_iff.mp h
    obtain ⟨_, hparts, place, -, rfl⟩ := Checked.seq_eq_sound_iff.mp (Except.ok.inj h)
    obtain ⟨items, elementType, rfl, htyped⟩ := exists_typed_of_inferType hinfer hparts
    rintro _ ⟨⟩ hne
    exact htyped hne
  | sliced =>
    obtain ⟨⟨content, input⟩, hinfer, h⟩ := bind_eq_ok_iff.mp h
    obtain ⟨page, -, h⟩ := bind_eq_ok_iff.mp h
    obtain ⟨_, hparts, place, -, rfl⟩ := Checked.seq_eq_sound_iff.mp (Except.ok.inj h)
    obtain ⟨items, elementType, rfl, htyped⟩ := exists_typed_of_inferType hinfer hparts
    rintro _ ⟨⟩ hne
    exact htyped hne

/-- The type of elements that are given is that of the first one. -/
theorem isSome_of_checkType {items : List Value} {fallback : TypeInput}
    {elementType : Option ElementType} (h : checkType items fallback = .sound elementType)
    (hne : items ≠ []) : elementType.isSome = true := by
  obtain ⟨first, rest, rfl⟩ := List.exists_cons_of_ne_nil hne
  rw [ElementType.followsFrom_of_checkType h hne]
  rfl

/-- However a representation is built, its elements have a type if there are any. -/
theorem IsBuilt.isTyped {m : Representation} (hm : m.IsBuilt) : m.payload.IsTyped := by
  induction hm with
  | ofLinks links => exact nofun
  | entity h =>
    unfold Representation.entity at h
    split at h
    · cases h
    · cases h
      rw [assemble_eq]
      exact nofun
  | collection h =>
    obtain ⟨items, -, h⟩ := bind_eq_ok_iff.mp h
    obtain ⟨elementType, htype, h⟩ := bind_eq_ok_iff.mp h
    cases h
    rw [assemble_eq]
    rintro _ ⟨⟩ hne
    exact isSome_of_checkType (Checked.settle_eq_ok_iff.mp htype) hne
  | paged h =>
    obtain ⟨items, -, h⟩ := bind_eq_ok_iff.mp h
    obtain ⟨elementType, htype, h⟩ := bind_eq_ok_iff.mp h
    cases h
    rw [assemble_eq]
    rintro _ ⟨⟩ hne
    exact isSome_of_checkType (Checked.settle_eq_ok_iff.mp htype) hne
  | sliced h =>
    obtain ⟨items, -, h⟩ := bind_eq_ok_iff.mp h
    obtain ⟨payload, hpayload, h⟩ := bind_eq_ok_iff.mp h
    cases h
    obtain ⟨_, hparts, page, -, rfl⟩ :=
      Checked.seq_eq_sound_iff.mp (Checked.settle_eq_ok_iff.mp hpayload)
    obtain ⟨elementType, htype, rfl⟩ := Checked.map_eq_sound_iff.mp hparts
    rw [assemble_eq]
    rintro _ ⟨⟩ hne
    exact isSome_of_checkType htype hne
  | ofRecord h =>
    unfold Representation.ofRecord at h
    split at h
    · exact isTyped_of_checkPayload (ofFields_eq_ok_iff.mp h).2.2.1
    · cases h
  | withLinks links _ ih => exact ih

end Representation

/-- The type that a change offers to fall back on. -/
def Change.fallback? : Change → Option ElementType
  | .withFallbackType elementType => some elementType
  | _ => none

namespace Representation

variable {m : Representation} {items : List Value}

/-- A change that offers no type changes nothing but links, whatever else there is. -/
theorem exists_changed_eq {c : Change} (h : c.fallback? = none) :
    ∃ relink : List Link → List Link,
      ∀ m : Representation, m.changed c = { m with links := relink m.links } := by
  cases c with
  | add links => exact ⟨(OrderedSet.insertAll Link.sameAs · links), fun _ => rfl⟩
  | addIf condition supply =>
    cases condition with
    | false => exact ⟨id, fun _ => rfl⟩
    | true => exact ⟨(OrderedSet.insertAll Link.sameAs · supply.links), fun _ => rfl⟩
  | removeLinks rel =>
    cases rel with
    | none => exact ⟨fun _ => [], fun _ => rfl⟩
    | some rel =>
      cases hrel : rel.resolve with
      | error fault =>
        refine ⟨id, fun m => ?_⟩
        simp only [changed, change, removeLinks, hrel]
        rfl
      | ok r =>
        refine ⟨fun links => links.filter fun l => !l.rel.sameAs r, fun m => ?_⟩
        simp only [changed, change, removeLinks, hrel]
        rfl
  | removeIf test =>
    refine ⟨fun links => (rejecting test links).toOption.getD links, fun m => ?_⟩
    simp only [changed, change, removeIf]
    cases rejecting test m.links <;> rfl
  | withFallbackType elementType => cases h

/-- A type that is offered is taken by elements that have none. -/
theorem withFallbackType?_eq (hitems : m.payload.items? = some items) (elementType : ElementType) :
    m.withFallbackType? elementType = .ok (if m.payload.elementType?.isSome then none
      else some { m with payload := m.payload.withElementType (some elementType) }) := by
  unfold withFallbackType?
  simp only [hitems, Option.isNone_some, Bool.false_eq_true, if_false]
  split <;> rfl

/-- Elements that are offered a type keep the one that they have; nothing else is touched. -/
theorem changed_withFallbackType (hitems : m.payload.items? = some items)
    (elementType : ElementType) :
    m.changed (.withFallbackType elementType) =
      { m with payload := m.payload.withElementType (m.payload.elementType?.or elementType) } := by
  rw [changed, change, withFallbackType?_eq hitems]
  obtain ⟨payload, links, label⟩ := m
  cases payload with
  | bare => cases hitems
  | entity content => cases hitems
  | collection items type => cases type <;> rfl
  | paged items type page => cases type <;> rfl
  | sliced items type page => cases type <;> rfl

/-- The elements are among the data. -/
theorem SameData.items?_eq {m' : Representation} (h : SameData m m') :
    m'.payload.items? = m.payload.items? := by
  obtain ⟨elementType, hpayload⟩ := h.payload
  rw [hpayload]
  cases m.payload <;> rfl

/-- After a change the type is the one before it, or else the one that the change offers. -/
theorem elementType?_changed (hitems : m.payload.items? = some items) (c : Change) :
    (m.changed c).payload.elementType? = m.payload.elementType?.or c.fallback? := by
  cases hfallback : c.fallback? with
  | none =>
    obtain ⟨relink, hrelink⟩ := exists_changed_eq hfallback
    rw [hrelink, Option.or_none]
  | some elementType =>
    cases c with
    | withFallbackType offered =>
      cases hfallback
      rw [changed_withFallbackType hitems]
      cases hpayload : m.payload with
      | bare => rw [hpayload] at hitems; cases hitems
      | entity content => rw [hpayload] at hitems; cases hitems
      | _ => rfl
    | _ => cases hfallback

/-- After several changes the type is the one before them, or else the first one that is
offered. -/
theorem elementType?_changedAll (hitems : m.payload.items? = some items) (cs : List Change) :
    (m.changedAll cs).payload.elementType? =
      m.payload.elementType?.or (cs.findSome? Change.fallback?) := by
  induction cs generalizing m with
  | nil => exact (Option.or_none).symm
  | cons c cs ih =>
    have hitems' : (m.changed c).payload.items? = some items := by
      rw [(sameData_changed m c).items?_eq, hitems]
    calc
      (m.changedAll (c :: cs)).payload.elementType?
        = (m.changed c).payload.elementType?.or (cs.findSome? Change.fallback?) := ih hitems'
      _ = m.payload.elementType?.or (c.fallback?.or (cs.findSome? Change.fallback?)) := by
        rw [elementType?_changed hitems, Option.or_assoc]
      _ = m.payload.elementType?.or ((c :: cs).findSome? Change.fallback?) := by
        cases h : c.fallback? <;> simp [h]

end Representation

end WebLinking
