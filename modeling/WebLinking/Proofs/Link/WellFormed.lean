import WebLinking.Link.Header
import WebLinking.Proofs.Checked
import WebLinking.Proofs.Outcome
import WebLinking.Proofs.Text.Blank

/-!
# Well-formed links

The target of a well-formed link is not empty, and its relation is a trimmed text that is not
empty. Texts make well-formed links only, and every well-formed link is made of the record that
describes it. Octets and enumeration members are decoded after the target has been compared
with the empty text and after the relation has been trimmed, so they make other links as well.
-/

namespace WebLinking

/-- The text that a value is decoded as: octets and enumeration members stand for one. -/
def Value.decoded? : Value → Option Text
  | .unordered (.bytes t) | .unordered (.byteBuffer t) => some t
  | .member value => Scalar.memberSpelling? value
  | _ => none

/-- A value is taken as a text if it is that text or decoded as it. -/
theorem Value.asText_eq_sound_iff {value : Value} {t : Text} :
    value.asText = .sound t ↔ value = .text t ∨ value.decoded? = some t := by
  cases value with
  | scalar s => cases s <;> simp [asText, decoded?, text, Checked.refuse]
  | member value => cases h : Scalar.memberSpelling? value <;> simp [asText, decoded?, text, h]
  | unordered kind => cases kind <;> simp [asText, decoded?, text, Checked.refuse]
  | _ => simp [asText, decoded?, text, Checked.refuse]

/-- A value is a text, is decoded as one, is refused as one, or has none that can be written. -/
theorem Value.isText_or_decoded_or_refused (value : Value) :
    (∃ t, value = .text t) ∨ (∃ t, value.decoded? = some t) ∨
      value.asText = Checked.refuse .notText ∨
        ∃ v, value = .member v ∧ Scalar.memberSpelling? v = none := by
  cases value with
  | scalar s =>
    cases s with
    | text t => exact Or.inl ⟨t, rfl⟩
    | _ => exact Or.inr (Or.inr (Or.inl rfl))
  | member v =>
    cases h : Scalar.memberSpelling? v with
    | some t => exact Or.inr (Or.inl ⟨t, h⟩)
    | none => exact Or.inr (Or.inr (Or.inr ⟨v, rfl, h⟩))
  | unordered kind =>
    cases kind with
    | bytes t | byteBuffer t => exact Or.inr (Or.inl ⟨t, rfl⟩)
    | _ => exact Or.inr (Or.inr (Or.inl rfl))
  | _ => exact Or.inr (Or.inr (Or.inl rfl))

/-- The spelling of a relation is not empty and has no blanks at its ends. -/
structure Relation.IsWellFormed (r : Relation) : Prop where
  /-- There is a spelling. -/
  ne_nil : r.value ≠ []
  /-- The spelling is trimmed. -/
  trim_eq : r.value.trim = r.value

instance (r : Relation) : Decidable r.IsWellFormed :=
  decidable_of_iff (r.value ≠ [] ∧ r.value.trim = r.value)
    ⟨fun h => ⟨h.1, h.2⟩, fun h => ⟨h.1, h.2⟩⟩

namespace Relation

/-- A spelling that is not empty is that of a relation. -/
theorem ofSpelling_eq_sound_iff {t : Text} {r : Relation} :
    ofSpelling t = .sound r ↔ r.value ≠ [] ∧ r.value = t := by
  unfold ofSpelling
  by_cases hempty : t = []
  · rw [if_pos (List.isEmpty_iff.mpr hempty)]
    constructor
    · rintro ⟨⟩
    · rintro ⟨hne, hvalue⟩
      exact absurd (hvalue.trans hempty) hne
  · rw [if_neg (mt List.isEmpty_iff.mp hempty)]
    constructor
    · rintro ⟨⟩
      exact ⟨hempty, rfl⟩
    · rintro ⟨-, rfl⟩
      rfl

/-- A text stands for the relation that is left when it is trimmed. -/
theorem ofText_eq_sound_iff {t : Text} {r : Relation} :
    ofText t = .sound r ↔ r.IsWellFormed ∧ r.value = t.trim := by
  rw [ofText, ofSpelling_eq_sound_iff]
  constructor
  · rintro ⟨hne, hvalue⟩
    refine ⟨⟨hne, ?_⟩, hvalue⟩
    rw [hvalue, Text.trim_trim]
  · rintro ⟨hr, hvalue⟩
    exact ⟨hr.ne_nil, hvalue⟩

/-- The spelling of a well-formed relation stands for it. -/
theorem IsWellFormed.ofText_value {r : Relation} (hr : r.IsWellFormed) :
    ofText r.value = .sound r :=
  ofText_eq_sound_iff.mpr ⟨hr, hr.trim_eq.symm⟩

/-- A relation is made of a text that is trimmed, or of a decoded text as it is. -/
theorem check_eq_sound_iff {value : Value} {r : Relation} :
    check value = .sound r ↔ (∃ t, value = .text t ∧ ofText t = .sound r) ∨
      r.value ≠ [] ∧ value.decoded? = some r.value := by
  unfold check
  split
  · rename_i t
    constructor
    · intro h
      exact Or.inl ⟨t, rfl, h⟩
    · rintro (⟨_, ⟨⟩, h⟩ | ⟨-, ⟨⟩⟩)
      exact h
  · rename_i hnot
    rw [Checked.andThen_eq_sound_iff]
    simp only [Value.asText_eq_sound_iff, ofSpelling_eq_sound_iff]
    constructor
    · rintro ⟨t, rfl | hdecoded, hne, hvalue⟩
      · exact absurd rfl (hnot t)
      · exact Or.inr ⟨hne, hvalue ▸ hdecoded⟩
    · rintro (⟨t, rfl, -⟩ | ⟨hne, hdecoded⟩)
      · exact absurd rfl (hnot t)
      · exact ⟨r.value, Or.inr hdecoded, hne, rfl⟩

/-- The relations that are obtained of values are those with a spelling. -/
theorem exists_of_iff {r : Relation} : (∃ value, of value = .ok r) ↔ r.value ≠ [] := by
  have hof : ∀ value, of value = .ok r ↔ check value = .sound r := fun value =>
    Checked.settle_eq_ok_iff.trans Checked.inField_eq_sound_iff
  simp only [hof, check_eq_sound_iff]
  constructor
  · rintro ⟨value, ⟨t, -, ht⟩ | ⟨hne, -⟩⟩
    · exact (ofText_eq_sound_iff.mp ht).1.ne_nil
    · exact hne
  · intro hne
    exact ⟨.unordered (.bytes r.value), Or.inr ⟨hne, rfl⟩⟩

/-- The relation of a link to its own resource is well formed. -/
theorem isWellFormed_self : Relation.self.IsWellFormed := by decide

end Relation

namespace RelationInput

/-- What a caller gives as a relation was obtained of a value, or a relation is to be made of it. -/
def IsMade : RelationInput → Prop
  | .made r => ∃ value, Relation.of value = .ok r
  | .raw _ => True

/-- The spelling that a relation has without having been trimmed, if it has one. -/
def decoded? : RelationInput → Option Text
  | .made r => if r.value.trim = r.value then none else some r.value
  | .raw (.mapping fields) => (Fields.get? fields "value".toList).bind Value.decoded?
  | .raw value => value.decoded?

end RelationInput

/-- A relation has a spelling that is trimmed or was decoded of something that was given. -/
structure Relation.IsSpelled (given : List RelationInput) (r : Relation) : Prop where
  /-- There is a spelling. -/
  ne_nil : r.value ≠ []
  /-- The spelling is trimmed or was decoded. -/
  trim_eq : r.value.trim = r.value ∨ ∃ rel ∈ given, rel.decoded? = some r.value

namespace Relation

/-- A well-formed relation is spelled in any case. -/
theorem IsWellFormed.isSpelled {r : Relation} (hr : r.IsWellFormed) (given : List RelationInput) :
    r.IsSpelled given :=
  ⟨hr.ne_nil, Or.inl hr.trim_eq⟩

/-- More may be given. -/
theorem IsSpelled.mono {given given' : List RelationInput} {r : Relation} (hr : r.IsSpelled given)
    (h : given ⊆ given') : r.IsSpelled given' :=
  ⟨hr.ne_nil, hr.trim_eq.imp_right fun ⟨rel, hrel, hdecoded⟩ => ⟨rel, h hrel, hdecoded⟩⟩

/-- A relation that is made of a value is trimmed, or decoded of the value. -/
theorem isSpelled_of_check {value : Value} {r : Relation} (h : check value = .sound r)
    {rel : RelationInput} (hdecoded : rel.decoded? = value.decoded?) : r.IsSpelled [rel] := by
  rcases check_eq_sound_iff.mp h with ⟨t, -, ht⟩ | ⟨hne, hvalue⟩
  · exact (ofText_eq_sound_iff.mp ht).1.isSpelled _
  · exact ⟨hne, Or.inr ⟨rel, List.mem_singleton_self rel, hdecoded.trans hvalue⟩⟩

end Relation

namespace RelationInput

/-- A relation that was made before is trimmed, or decoded of something. -/
theorem isSpelled_of_made {r : Relation} (h : (made r).IsMade) : r.IsSpelled [made r] := by
  refine ⟨Relation.exists_of_iff.mp h, ?_⟩
  by_cases htrim : r.value.trim = r.value
  · exact Or.inl htrim
  · exact Or.inr ⟨made r, List.mem_singleton_self _, if_neg htrim⟩

/-- A relation in the field of a record is trimmed, or decoded there. -/
theorem IsMade.isSpelled_of_check {rel : RelationInput} (hrel : rel.IsMade) {r : Relation}
    (h : rel.check = .sound r) : r.IsSpelled [rel] := by
  unfold check at h
  split at h
  · cases h
    exact isSpelled_of_made hrel
  · exact (Relation.ofText_eq_sound_iff.mp (Checked.inField_eq_sound_iff.mp h)).1.isSpelled _
  · rename_i fields
    obtain ⟨value, hvalue, hcheck⟩ :=
      Checked.required_eq_sound_iff.mp (Checked.inField_eq_sound_iff.mp h)
    refine Relation.isSpelled_of_check hcheck ?_
    rw [decoded?, hvalue, Option.bind_some]
  · cases h

/-- A relation that is given or made is trimmed, or decoded of what is given. -/
theorem IsMade.isSpelled_of_resolve {rel : RelationInput} (hrel : rel.IsMade) {r : Relation}
    (h : rel.resolve = .ok r) : r.IsSpelled [rel] := by
  cases rel with
  | made s =>
    cases h
    exact isSpelled_of_made hrel
  | raw value =>
    have hcheck := Checked.inField_eq_sound_iff.mp (Checked.settle_eq_ok_iff.mp h)
    refine Relation.isSpelled_of_check hcheck ?_
    cases value with
    | mapping fields =>
      obtain ⟨_, hvalue, -⟩ | ⟨-, hvalue⟩ := Relation.check_eq_sound_iff.mp hcheck
      · cases hvalue
      · cases hvalue
    | _ => rfl

end RelationInput

/-- The target of a link is not empty, and its relation is well formed. -/
structure Link.IsWellFormed (l : Link) : Prop where
  /-- There is a target. -/
  href : l.href ≠ []
  /-- The relation is well formed. -/
  rel : l.rel.IsWellFormed

instance (l : Link) : Decidable l.IsWellFormed :=
  decidable_of_iff (l.href ≠ [] ∧ l.rel.IsWellFormed) ⟨fun h => ⟨h.1, h.2⟩, fun h => ⟨h.1, h.2⟩⟩

namespace Link

/-- A target is given as a text that is not empty, or decoded. -/
theorem checkHref_eq_sound_iff {value : Option Value} {t : Text} :
    checkHref value = .ok (.sound t) ↔
      value = some (.text t) ∧ t ≠ [] ∨ value.bind Value.decoded? = some t := by
  unfold checkHref
  split
  · simp [Checked.refuse]
  · simp [Value.text, Value.decoded?]
  · simp only [Value.text, Value.decoded?, reduceCtorEq, Option.bind_some, or_false, false_iff]
    rintro ⟨⟨⟩, hne⟩
    exact hne rfl
  · rename_i value _ hnot
    rw [Except.ok.injEq, Value.asText_eq_sound_iff, Option.some.injEq, Option.bind_some]
    refine or_congr_left ⟨fun h => ⟨h, fun hnil => hnot ?_⟩, And.left⟩
    rw [h, hnil]
    rfl

/-- Parts make a link if the target, the relation and each attribute are sound. -/
theorem checkParts_eq_sound_iff {href : Option Value} {rel : Option RelationInput}
    {fields : Fields} {l : Link} :
    checkParts href rel fields = .ok (.sound l) ↔
      checkHref href = .ok (.sound l.href) ∧
        (rel.map RelationInput.check).getD (.sound Relation.self) = .sound l.rel ∧
          ∀ a, checkAttribute fields a = .sound (l.get a) := by
  constructor
  · intro h
    obtain ⟨href, hhref, h⟩ := bind_eq_ok_iff.mp h
    have hlink := Checked.release_eq_sound_iff.mp h
    simp only [Checked.seq_eq_sound_iff, Checked.map_eq_sound_iff, Checked.inField_eq_sound_iff]
      at hlink
    obtain ⟨_, hlink, name, hname, rfl⟩ := hlink
    obtain ⟨_, hlink, profile, hprofile, rfl⟩ := hlink
    obtain ⟨_, hlink, deprecation, hdeprecation, rfl⟩ := hlink
    obtain ⟨_, hlink, type, htype, rfl⟩ := hlink
    obtain ⟨_, hlink, title, htitle, rfl⟩ := hlink
    obtain ⟨_, hlink, media, hmedia, rfl⟩ := hlink
    obtain ⟨_, hlink, hreflang, hhreflang, rfl⟩ := hlink
    obtain ⟨_, ⟨target, rfl, rfl⟩, r, hrel, rfl⟩ := hlink
    exact ⟨hhref, hrel, fun a => by cases a <;> assumption⟩
  · rintro ⟨hhref, hrel, hattributes⟩
    simp only [checkParts, hhref, hrel, hattributes]
    rfl

/-- A link that is made of parts has no target only if its target was decoded as none. -/
theorem href_eq_nil_iff_of_checkParts {href : Option Value} {rel : Option RelationInput}
    {fields : Fields} {l : Link} (h : checkParts href rel fields = .ok (.sound l)) :
    l.href = [] ↔ href.bind Value.decoded? = some [] := by
  rcases checkHref_eq_sound_iff.mp (checkParts_eq_sound_iff.mp h).1 with ⟨rfl, hne⟩ | hdecoded
  · exact iff_of_false hne (by rintro ⟨⟩)
  · rw [hdecoded, Option.some.injEq]

/-- The relation of a link that is made of parts is trimmed, or was decoded. -/
theorem rel_isSpelled_of_checkParts {href : Option Value} {rel : Option RelationInput}
    {fields : Fields} {l : Link} (hrel : ∀ r ∈ rel, r.IsMade)
    (h : checkParts href rel fields = .ok (.sound l)) : l.rel.IsSpelled rel.toList := by
  obtain ⟨-, hcheck, -⟩ := checkParts_eq_sound_iff.mp h
  cases rel with
  | none => exact Checked.sound.inj hcheck ▸ Relation.isWellFormed_self.isSpelled _
  | some r => exact (hrel r rfl).isSpelled_of_check hcheck

/-- Under the name of an attribute a link is described by the attribute's value. -/
theorem get?_fields (l : Link) (a : Attribute) :
    l.fields.get? a.key = some (.ofText? (l.get a)) := by
  cases a <;> rfl

/-- A well-formed link is the one that its own record makes. -/
theorem IsWellFormed.ofRecord_toValue {l : Link} (hl : l.IsWellFormed) :
    ofRecord l.toValue = .ok l := by
  have hattribute : ∀ a, checkAttribute l.fields a = .sound (l.get a) := by
    intro a
    rw [checkAttribute, get?_fields]
    cases l.get a <;> rfl
  have hhref : checkHref (some (.text l.href)) = .ok (.sound l.href) :=
    checkHref_eq_sound_iff.mpr (Or.inl ⟨rfl, hl.href⟩)
  have hrel : RelationInput.check (.raw (.text l.rel.value)) = .sound l.rel :=
    Checked.inField_eq_sound_iff.mpr hl.rel.ofText_value
  have hchecked : checkRecord l.toValue = .ok (.sound l) :=
    checkParts_eq_sound_iff.mpr ⟨hhref, hrel, hattribute⟩
  rw [ofRecord, hchecked]
  rfl

end Link

end WebLinking
