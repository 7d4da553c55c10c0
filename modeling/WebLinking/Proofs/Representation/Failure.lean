import WebLinking.Proofs.Representation.Agreement

/-!
# How steps fail

A step on a representation fails for what is given with it or for what the representation does
not have: no relation can be made of a blank text, a link that must be there is absent, a test
cannot judge some link, or the representation is of another kind than what is asked for.
-/

namespace WebLinking

/-- A test fails on some link in the end, after it has passed or failed to pass every link
before. -/
def FirstFault (test : Link → Except Fault Bool) (links : List Link) (fault : Fault) : Prop :=
  ∃ before l after, links = before ++ l :: after ∧ (∀ k ∈ before, ∃ b, test k = .ok b) ∧
    test l = .error fault

namespace RelationInput

/-- No relation is made of a blank text, of empty octets, nor of what is no text. -/
inductive Fails : RelationInput → Fault → Prop
  /-- The text is blank. -/
  | blank {t : Text} (h : t.trim = []) :
      Fails (.raw (.scalar (.text t))) (.invalid [⟨[.field "value".toList], .tooShort⟩])
  /-- What is given is decoded as the empty text. -/
  | empty {value : Value} (h : value.decoded? = some []) :
      Fails (.raw value) (.invalid [⟨[.field "value".toList], .tooShort⟩])
  /-- What is given is neither a relation nor a text. -/
  | notText {value : Value} (h : value.asText = Checked.refuse .notText) :
      Fails (.raw value) (.invalid [⟨[.field "value".toList], .notText⟩])
  /-- What is given is a member for an integer that has too many digits to be written. -/
  | longInteger {value : Option Scalar} (h : Scalar.memberSpelling? value = none) :
      Fails (.raw (.member value)) .longInteger

private theorem settle_ofSpelling (t : Text) :
    ((Relation.ofSpelling t).inField "value").settle =
      if t = [] then .error (.invalid [⟨[.field "value".toList], .tooShort⟩]) else .ok ⟨t⟩ := by
  rw [Relation.ofSpelling]
  simp only [List.isEmpty_iff]
  split <;> rfl

private theorem resolve_text (t : Text) : (raw (.scalar (.text t))).resolve =
    if t.trim = [] then .error (.invalid [⟨[.field "value".toList], .tooShort⟩])
    else .ok ⟨t.trim⟩ :=
  settle_ofSpelling t.trim

/-- A relation is made of what is no text as it is decoded. -/
theorem resolve_of_ne_text {value : Value} (h : ∀ t, value ≠ .text t) :
    (raw value).resolve =
      ((value.asText.andThen Relation.ofSpelling).inField "value").settle := by
  cases value with
  | scalar s =>
    cases s with
    | text t => exact absurd rfl (h t)
    | _ => rfl
  | _ => rfl

private theorem resolve_decoded {value : Value} {t : Text} (h : value.decoded? = some t) :
    (raw value).resolve =
      if t = [] then .error (.invalid [⟨[.field "value".toList], .tooShort⟩]) else .ok ⟨t⟩ := by
  rw [resolve_of_ne_text, Value.asText_eq_sound_iff.mpr (Or.inr h)]
  · exact settle_ofSpelling t
  · rintro u rfl
    cases h

private theorem resolve_refused {value : Value} (h : value.asText = Checked.refuse .notText) :
    (raw value).resolve = .error (.invalid [⟨[.field "value".toList], .notText⟩]) := by
  rw [resolve_of_ne_text, h]
  · rfl
  · rintro u rfl
    cases h

private theorem resolve_longInteger {value : Option Scalar}
    (h : Scalar.memberSpelling? value = none) :
    (raw (.member value)).resolve = .error .longInteger := by
  have htext : (Value.member value).asText = .halted .longInteger := by
    rw [Value.asText, h]
  rw [resolve_of_ne_text (by rintro u ⟨⟩), htext]
  rfl

/-- No relation is made of what is given in the ways that are told only. -/
theorem resolve_eq_error_iff {rel : RelationInput} {fault : Fault} :
    rel.resolve = .error fault ↔ rel.Fails fault := by
  constructor
  · intro h
    cases rel with
    | made r => cases h
    | raw value =>
      rcases value.isText_or_decoded_or_refused with
        ⟨t, rfl⟩ | ⟨t, hdecoded⟩ | hrefused | ⟨v, rfl, hlong⟩
      · rw [Value.text, resolve_text] at h
        split at h
        · rename_i hblank
          cases h
          exact .blank hblank
        · cases h
      · rw [resolve_decoded hdecoded] at h
        split at h
        · rename_i hempty
          cases h
          exact .empty (hempty ▸ hdecoded)
        · cases h
      · rw [resolve_refused hrefused] at h
        cases h
        exact .notText hrefused
      · rw [resolve_longInteger hlong] at h
        cases h
        exact .longInteger hlong
  · rintro (hblank | hempty | hrefused | hlong)
    · rw [resolve_text, if_pos hblank]
    · rw [resolve_decoded hempty, if_pos rfl]
    · exact resolve_refused hrefused
    · exact resolve_longInteger hlong

end RelationInput

namespace Step

/-- The relation that is given for a step. -/
def relation? : Step → Option RelationInput
  | .removeLinks rel | .links rel | .link rel | .requiredLink rel | .hasLink rel => rel
  | _ => none

/-- The name of what a step asks of a representation, if only pages can answer. -/
def pageName? : Step → Option String
  | .page => some "get_metadata"
  | .nextLink => some "get_next_link"
  | .previousLink => some "get_previous_link"
  | _ => none

/-- The ways in which a step on a representation fails. -/
inductive Fails (m : Representation) : Step → Fault → Prop
  /-- No relation can be made of what is given for one. -/
  | relation {step : Step} {rel : RelationInput} {fault : Fault}
      (hstep : step.relation? = some rel) (hrel : rel.Fails fault) : Fails m step fault
  /-- There is no link of the relation, and one must be there. -/
  | absentLink {rel : Option RelationInput} (h : m.linksOf rel = .ok []) :
      Fails m (.requiredLink rel)
        (.linkNotFound ((rel.map RelationInput.spelling).getD "None".toList))
  /-- The test fails on a link. -/
  | test {test : LinkTest} {fault : Fault} (h : FirstFault test.run m.links fault) :
      Fails m (.removeIf test) fault
  /-- The field cannot be replaced. -/
  | field {field : Text} {value : Value} {fault : Fault} (h : m.assign field value = .error fault) :
      Fails m (.assign field value) fault
  /-- Links alone have no content. -/
  | noContent (h : m.kind = .representation) :
      Fails m .content (.lacking m.kind.typeName "get_content")
  /-- What is no page cannot answer. -/
  | noPage {step : Step} {name : String} (hstep : step.pageName? = some name)
      (h : m.payload.isPage = false) : Fails m step (.lacking m.kind.typeName name)

end Step

namespace Representation

variable {m : Representation} {rel : Option RelationInput} {fault : Fault}

/-- Asking for links fails if no relation can be made of what is given for one. -/
theorem linksOf_eq_error_iff :
    m.linksOf rel = .error fault ↔ ∃ r, rel = some r ∧ r.Fails fault := by
  cases rel with
  | none => simp [linksOf]
  | some r =>
    rw [linksOf, bind_pure_eq_error_iff, RelationInput.resolve_eq_error_iff]
    simp

/-- Asking for one link fails as asking for all of them does. -/
theorem link?_eq_error_iff : m.link? rel = .error fault ↔ m.linksOf rel = .error fault :=
  bind_pure_eq_error_iff

theorem hasLink_eq_error_iff : m.hasLink rel = .error fault ↔ m.linksOf rel = .error fault :=
  bind_pure_eq_error_iff.trans link?_eq_error_iff

/-- A link that must be there is missed if there are no links of its relation. -/
theorem requiredLink_eq_error_iff : m.requiredLink rel = .error fault ↔
    m.linksOf rel = .error fault ∨ m.linksOf rel = .ok [] ∧
      fault = .linkNotFound ((rel.map RelationInput.spelling).getD "None".toList) := by
  rw [requiredLink, bind_eq_error_iff, link?_eq_error_iff]
  refine or_congr_right ?_
  rw [link?]
  cases m.linksOf rel with
  | error e => simp [bind, Except.bind]
  | ok links =>
    cases links with
    | nil =>
      simp [bind, Except.bind, pure, Except.pure, throw, throwThe, MonadExceptOf.throw, eq_comm]
    | cons l more => simp [bind, Except.bind, pure, Except.pure]

theorem removeLinks_eq_error_iff :
    m.removeLinks rel = .error fault ↔ ∃ r, rel = some r ∧ r.Fails fault := by
  cases rel with
  | none => simp [removeLinks]
  | some r =>
    rw [removeLinks, bind_pure_eq_error_iff, RelationInput.resolve_eq_error_iff]
    simp

/-- Links are tested in order, until a test fails. -/
theorem rejecting_eq_error_iff {test : Link → Except Fault Bool} {links : List Link} :
    rejecting test links = .error fault ↔ FirstFault test links fault := by
  have hmapM : rejecting test links = .error fault ↔ links.mapM test = .error fault := by
    induction links with
    | nil => simp [rejecting, pure, Except.pure]
    | cons l more ih =>
      rw [rejecting, List.mapM_cons, bind_eq_error_iff, bind_eq_error_iff]
      simp only [bind_pure_eq_error_iff, ih]
  exact hmapM.trans mapM_eq_error_iff

/-- A removal fails as the first test that fails. -/
theorem removeIf_eq_error_iff {test : Link → Except Fault Bool} :
    m.removeIf test = .error fault ↔ FirstFault test m.links fault :=
  bind_pure_eq_error_iff.trans rejecting_eq_error_iff

theorem content_eq_error_iff : m.content = .error fault ↔
    m.kind = .representation ∧ fault = .lacking m.kind.typeName "get_content" := by
  obtain ⟨payload, links, label⟩ := m
  cases payload <;> simp [content, kind, Payload.kind, lacks, eq_comm]

/-- What only pages can answer is refused by what is no page. -/
private theorem page_eq_error_iff {α : Type} {answer : α} {name : String} :
    (if m.payload.isPage then .ok answer else m.lacks name) = .error fault ↔
      m.payload.isPage = false ∧ fault = .lacking m.kind.typeName name := by
  cases m.payload.isPage <;> simp [lacks, eq_comm]

variable {step : Step}

private theorem fails_of_linksOf (hstep : step.relation? = rel)
    (h : m.linksOf rel = .error fault) : step.Fails m fault := by
  obtain ⟨r, rfl, hr⟩ := linksOf_eq_error_iff.mp h
  exact .relation hstep hr

private theorem fails_of_take (h : m.take step = .error fault) : step.Fails m fault := by
  cases step with
  | add | addIf | assignLinks | hasLinks => cases h
  | removeLinks rel =>
    obtain ⟨r, rfl, hr⟩ := removeLinks_eq_error_iff.mp (bind_pure_eq_error_iff.mp h)
    exact .relation rfl hr
  | removeIf test => exact .test (removeIf_eq_error_iff.mp (bind_pure_eq_error_iff.mp h))
  | assign field value => exact .field (bind_pure_eq_error_iff.mp h)
  | links rel => exact fails_of_linksOf rfl (bind_pure_eq_error_iff.mp h)
  | link rel => exact fails_of_linksOf rfl (link?_eq_error_iff.mp (bind_pure_eq_error_iff.mp h))
  | hasLink rel =>
    exact fails_of_linksOf rfl (hasLink_eq_error_iff.mp (bind_pure_eq_error_iff.mp h))
  | requiredLink rel =>
    rcases requiredLink_eq_error_iff.mp (bind_pure_eq_error_iff.mp h) with hlinks | ⟨hlinks, rfl⟩
    · exact fails_of_linksOf rfl hlinks
    · exact .absentLink hlinks
  | content =>
    obtain ⟨hkind, rfl⟩ := content_eq_error_iff.mp (bind_pure_eq_error_iff.mp h)
    exact .noContent hkind
  | page =>
    obtain ⟨hpage, rfl⟩ := page_eq_error_iff.mp (bind_pure_eq_error_iff.mp h)
    exact .noPage rfl hpage
  | nextLink =>
    obtain ⟨hpage, rfl⟩ := page_eq_error_iff.mp (bind_pure_eq_error_iff.mp h)
    exact .noPage rfl hpage
  | previousLink =>
    obtain ⟨hpage, rfl⟩ := page_eq_error_iff.mp (bind_pure_eq_error_iff.mp h)
    exact .noPage rfl hpage

private theorem take_of_fails (h : step.Fails m fault) : m.take step = .error fault := by
  cases h with
  | relation hstep hrel =>
    have hlinks : m.linksOf step.relation? = .error fault :=
      linksOf_eq_error_iff.mpr ⟨_, hstep, hrel⟩
    cases step with
    | removeLinks rel =>
      exact bind_pure_eq_error_iff.mpr (removeLinks_eq_error_iff.mpr ⟨_, hstep, hrel⟩)
    | links rel => exact bind_pure_eq_error_iff.mpr hlinks
    | link rel => exact bind_pure_eq_error_iff.mpr (link?_eq_error_iff.mpr hlinks)
    | requiredLink rel =>
      exact bind_pure_eq_error_iff.mpr (requiredLink_eq_error_iff.mpr (Or.inl hlinks))
    | hasLink rel => exact bind_pure_eq_error_iff.mpr (hasLink_eq_error_iff.mpr hlinks)
    | _ => cases hstep
  | absentLink hlinks =>
    exact bind_pure_eq_error_iff.mpr (requiredLink_eq_error_iff.mpr (Or.inr ⟨hlinks, rfl⟩))
  | test h => exact bind_pure_eq_error_iff.mpr (removeIf_eq_error_iff.mpr h)
  | field h => exact bind_pure_eq_error_iff.mpr h
  | noContent h => exact bind_pure_eq_error_iff.mpr (content_eq_error_iff.mpr ⟨h, rfl⟩)
  | noPage hstep hpage =>
    cases step with
    | page =>
      cases hstep
      exact bind_pure_eq_error_iff.mpr (page_eq_error_iff.mpr ⟨hpage, rfl⟩)
    | nextLink =>
      cases hstep
      exact bind_pure_eq_error_iff.mpr (page_eq_error_iff.mpr ⟨hpage, rfl⟩)
    | previousLink =>
      cases hstep
      exact bind_pure_eq_error_iff.mpr (page_eq_error_iff.mpr ⟨hpage, rfl⟩)
    | _ => cases hstep

/-- A step fails in one of the ways that are told. -/
theorem take_eq_error_iff : m.take step = .error fault ↔ step.Fails m fault :=
  ⟨fails_of_take, take_of_fails⟩

end Representation

end WebLinking
