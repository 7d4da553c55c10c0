import WebLinking.Proofs.Representation.RoundTrip

/-!
# Two ways of making a representation

A representation of something is made of arguments, the links being added one argument after
another, or is read from a record that describes the same. Both ways take the members of the
content in the same order, take the type of the first one, and keep the first of the links that
count as equal; and both refuse the same. So they give the same representation or none.
-/

namespace WebLinking

/-- What a representation is to be made of besides links. -/
inductive Draft where
  /-- One value. -/
  | entity (content : Value)
  /-- The members of a value. -/
  | collection (contents : Value)
  /-- The members of a value as a page. -/
  | paged (contents : Value) (page : Option Page)
  /-- The members of a value as a page without counts. -/
  | sliced (contents : Value) (page : Option Page)

namespace Draft

/-- The kind of representation that is to be made. -/
def kind : Draft → RepresentationKind
  | .entity _ => .entity
  | .collection _ => .collection
  | .paged .. => .paged
  | .sliced .. => .sliced

/-- The content that is given. -/
def content : Draft → Value
  | .entity content => content
  | .collection contents | .paged contents _ | .sliced contents _ => contents

/-- The place of the page, of those that are to have one. -/
def page? : Draft → Option (Option Page)
  | .entity _ | .collection _ => none
  | .paged _ page | .sliced _ page => some page

/-- The representation with the links of several arguments, and with a type of elements to fall
back on where there are elements. -/
def build (d : Draft) (links : List (List Link)) (fallback : TypeInput) :
    Except Fault Representation :=
  match d with
  | .entity content => Representation.entity content links
  | .collection contents => Representation.collection contents links fallback
  | .paged contents page => Representation.paged contents page links fallback
  | .sliced contents page => Representation.sliced contents page links fallback

/-- A record describes a draft with links: it has the content, the links in order and the place of
the page. -/
structure IsDescribedBy (d : Draft) (links : List Link) (fields : Fields) : Prop where
  /-- The kind is the one that is to be made. -/
  kind : fields.get? "kind".toList = none ∨
    fields.get? "kind".toList = some (.text d.kind.text)
  /-- The content is given as it is. -/
  content : fields.get? "content".toList = some d.content
  /-- The links are described one by one. -/
  links : ∃ values, fields.get? "links".toList = some (.list values) ∧
    List.Forall₂ (fun value l => Link.ofRecord value = .ok l) values links
  /-- A place that is not known is absent. -/
  noPage : d.page? = some none →
    fields.get? "metadata".toList = none ∨ fields.get? "metadata".toList = some .null
  /-- A place that is known is described. -/
  page : ∀ p, d.page? = some (some p) → ∃ place,
    fields.get? "metadata".toList = some (.mapping place) ∧ Page.ofFields place = .ok p

/-- What a draft amounts to without a type to fall back on: a value, ordered members, no counts in a
slice. -/
inductive Yields : Draft → Payload → Prop
  /-- One value. -/
  | entity {content : Value} (h : content.isNull = false) :
      Yields (.entity content) (.entity content)
  /-- Members and the type of the first one. -/
  | collection {contents : Value} {items : List Value} (h : contents.members? = some items) :
      Yields (.collection contents) (.collection items (ElementType.ofFirst? items))
  /-- Members, the type of the first one and the place of the page. -/
  | paged {contents : Value} {items : List Value} {page : Option Page}
      (h : contents.members? = some items) :
      Yields (.paged contents page) (.paged items (ElementType.ofFirst? items) page)
  /-- Members, the type of the first one and the place of the page, without counts. -/
  | sliced {contents : Value} {items : List Value} {page : Option Page}
      (h : contents.members? = some items) (hpage : ∀ p ∈ page, p.isCounted = false) :
      Yields (.sliced contents page) (.sliced items (ElementType.ofFirst? items) page)

/-- The type of elements is that of the first one, and there is none without elements. -/
theorem Yields.elementType?_eq {d : Draft} {payload : Payload} (h : d.Yields payload) :
    payload.elementType? = (payload.items?.getD []).head?.map ElementType.of := by
  cases h <;> rfl

/-- A representation carries what a draft amounts to, holds the first ones of equal links, and says
its kind. -/
structure Makes (d : Draft) (links : List Link) (m : Representation) : Prop where
  /-- It carries what the draft amounts to. -/
  payload : d.Yields m.payload
  /-- Of links that count as equal it holds the first. -/
  links : m.links = OrderedSet.ofList Link.sameAs links
  /-- It says its kind. -/
  label : m.label = .text m.payload.kind.text

end Draft

namespace Representation

variable {contents : Value} {items : List Value}

theorem membersOf_eq_ok_iff : membersOf contents = .ok items ↔ contents.members? = some items := by
  unfold membersOf
  cases contents.members? <;> simp

/-- Without a type to fall back on the type of elements is that of the first one. -/
theorem checkType_absent (items : List Value) :
    checkType items .absent = .sound (ElementType.ofFirst? items) := by
  rw [checkType, check_orFirst_absent]
  rfl

theorem settle_checkType_absent (items : List Value) :
    (checkType items .absent).settle = .ok (ElementType.ofFirst? items) :=
  Checked.settle_eq_ok_iff.mpr (checkType_absent items)

/-- In a record without a type the elements are the members of the content, and the first one gives
their type. -/
theorem exists_inferType_iff {α : Type} {make : List Value → Option ElementType → α} {a : α} :
    (∃ typed, inferType (some contents) .absent = .ok typed ∧
      make <$> (checkItems typed.1).inField "content" <*> typed.2.check.inField "element_type" =
        .sound a) ↔
      ∃ items, contents.members? = some items ∧ make items (ElementType.ofFirst? items) = a := by
  simp only [Checked.seq_eq_sound_iff, Checked.map_eq_sound_iff, Checked.inField_eq_sound_iff]
  by_cases hnull : contents = .null
  · -- The absent value is left to the check of the elements, which refuses it.
    subst hnull
    constructor
    · rintro ⟨typed, htyped, -, ⟨items, hitems, -⟩, -⟩
      cases htyped
      cases hitems
    · rintro ⟨items, hitems, -⟩
      cases hitems
  · have hinfer : inferType (some contents) .absent = do
        let items ← membersOf contents
        return (some (.tuple items), TypeInput.absent.orFirst items) := by
      cases contents with
      | null => exact absurd rfl hnull
      | _ => rfl
    rw [hinfer]
    constructor
    · rintro ⟨typed, htyped, _, ⟨items, hitems, rfl⟩, elementType, htype, rfl⟩
      obtain ⟨members, hmembers, h⟩ := bind_eq_ok_iff.mp htyped
      cases h
      cases hitems
      rw [check_orFirst_absent] at htype
      cases htype
      exact ⟨items, membersOf_eq_ok_iff.mp hmembers, rfl⟩
    · rintro ⟨items, hmembers, rfl⟩
      exact ⟨_, bind_eq_ok_iff.mpr ⟨items, membersOf_eq_ok_iff.mpr hmembers, rfl⟩, _,
        ⟨items, rfl, rfl⟩, _, check_orFirst_absent items, rfl⟩

/-- The place of the page is checked after them. -/
theorem exists_inferType_page_iff {α : Type} {place : Checked (Option Page)}
    {make : List Value → Option ElementType → Option Page → α} {a : α} :
    (∃ typed, inferType (some contents) .absent = .ok typed ∧
      make <$> (checkItems typed.1).inField "content" <*> typed.2.check.inField "element_type" <*>
        place.inField "metadata" = .sound a) ↔
      ∃ items page, contents.members? = some items ∧ place = .sound page ∧
        make items (ElementType.ofFirst? items) page = a := by
  constructor
  · rintro ⟨typed, htyped, h⟩
    obtain ⟨makePage, hmake, page, hpage, rfl⟩ := Checked.seq_eq_sound_iff.mp h
    obtain ⟨items, hmembers, rfl⟩ := exists_inferType_iff.mp ⟨typed, htyped, hmake⟩
    exact ⟨items, page, hmembers, Checked.inField_eq_sound_iff.mp hpage, rfl⟩
  · rintro ⟨items, page, hmembers, hpage, rfl⟩
    obtain ⟨typed, htyped, hmake⟩ := exists_inferType_iff.mpr ⟨items, hmembers, rfl⟩
    exact ⟨typed, htyped, Checked.seq_eq_sound_iff.mpr
      ⟨_, hmake, page, Checked.inField_eq_sound_iff.mpr hpage, rfl⟩⟩

/-- The content of an entity is any value but the absent one. -/
theorem checkContent_eq_sound_iff {content value : Value} :
    checkContent (some content) = .ok (.sound value) ↔
      content.isNull = false ∧ value = content := by
  cases content <;> simp [checkContent, Value.isNull, eq_comm]

end Representation

namespace Draft

open WebLinking.Representation

variable {d : Draft} {m : Representation} {payload : Payload}

private theorem yields_of_build {links : List (List Link)} (h : d.build links .absent = .ok m) :
    ∃ payload, d.Yields payload ∧
      m = { payload, links := OrderedSet.ofList Link.sameAs links.flatten } := by
  cases d with
  | entity content =>
    rw [build, Representation.entity] at h
    split at h
    · cases h
    · rename_i hnull
      cases h
      exact ⟨_, .entity (Bool.eq_false_iff.mpr hnull), assemble_eq _ _⟩
  | collection contents =>
    obtain ⟨items, hitems, h⟩ := bind_eq_ok_iff.mp h
    rw [settle_checkType_absent] at h
    cases h
    exact ⟨_, .collection (membersOf_eq_ok_iff.mp hitems), assemble_eq _ _⟩
  | paged contents page =>
    obtain ⟨items, hitems, h⟩ := bind_eq_ok_iff.mp h
    rw [settle_checkType_absent] at h
    cases h
    exact ⟨_, .paged (membersOf_eq_ok_iff.mp hitems), assemble_eq _ _⟩
  | sliced contents page =>
    obtain ⟨items, hitems, h⟩ := bind_eq_ok_iff.mp h
    obtain ⟨payload, hpayload, h⟩ := bind_eq_ok_iff.mp h
    cases h
    obtain ⟨_, htyped, page, hslice, rfl⟩ :=
      Checked.seq_eq_sound_iff.mp (Checked.settle_eq_ok_iff.mp hpayload)
    obtain ⟨elementType, htype, rfl⟩ := Checked.map_eq_sound_iff.mp htyped
    rw [checkType_absent] at htype
    cases htype
    obtain ⟨rfl, huncounted⟩ :=
      checkSlice_eq_sound_iff.mp (Checked.inField_eq_sound_iff.mp hslice)
    exact ⟨_, .sliced (membersOf_eq_ok_iff.mp hitems) huncounted, assemble_eq _ _⟩

private theorem build_of_yields {links : List (List Link)} (h : d.Yields payload) :
    d.build links .absent =
      .ok { payload, links := OrderedSet.ofList Link.sameAs links.flatten } := by
  rw [← assemble_eq]
  cases h with
  | entity hnull => exact if_neg (Bool.eq_false_iff.mp hnull)
  | collection hitems =>
    exact bind_eq_ok_iff.mpr ⟨_, membersOf_eq_ok_iff.mpr hitems,
      bind_eq_ok_iff.mpr ⟨_, settle_checkType_absent _, rfl⟩⟩
  | paged hitems =>
    exact bind_eq_ok_iff.mpr ⟨_, membersOf_eq_ok_iff.mpr hitems,
      bind_eq_ok_iff.mpr ⟨_, settle_checkType_absent _, rfl⟩⟩
  | @sliced _ items page hitems hpage =>
    have hslice := checkSlice_eq_sound_iff.mpr ⟨rfl, hpage⟩
    refine bind_eq_ok_iff.mpr ⟨_, membersOf_eq_ok_iff.mpr hitems, bind_eq_ok_iff.mpr
      ⟨.sliced items (ElementType.ofFirst? items) page, ?_, rfl⟩⟩
    rw [checkType_absent, hslice]
    rfl

/-- Made of arguments, a draft makes a representation with the links of all of them. -/
theorem build_eq_ok_iff {links : List (List Link)} :
    d.build links .absent = .ok m ↔ d.Makes links.flatten m := by
  constructor
  · intro h
    obtain ⟨payload, hpayload, rfl⟩ := yields_of_build h
    exact ⟨hpayload, rfl, rfl⟩
  · obtain ⟨payload, found, label⟩ := m
    rintro ⟨hpayload, rfl, hlabel⟩
    have hlabel : label = .text payload.kind.text := hlabel
    subst hlabel
    exact build_of_yields hpayload

variable {links : List Link} {fields : Fields}

theorem IsDescribedBy.checkKind_eq (h : d.IsDescribedBy links fields) :
    checkKind d.kind (fields.get? "kind".toList) = .sound () := by
  rcases h.kind with hkind | hkind
  · rw [hkind]
    rfl
  · rw [hkind]
    exact if_pos rfl

theorem IsDescribedBy.checkLinks_eq (h : d.IsDescribedBy links fields) :
    checkLinks (fields.get? "links".toList) =
      .ok (.sound (OrderedSet.ofList Link.sameAs links)) := by
  obtain ⟨values, hvalues, hread⟩ := h.links
  exact checkLinks_eq_sound (Or.inl hvalues) hread

theorem IsDescribedBy.checkPage_eq (h : d.IsDescribedBy links fields) {page : Option Page}
    (hpage : d.page? = some page) :
    checkPage (fields.get? "metadata".toList) = .ok (.sound page) := by
  cases page with
  | none =>
    rcases h.noPage hpage with hplace | hplace
    · rw [hplace]
      rfl
    · rw [hplace]
      rfl
  | some p =>
    obtain ⟨place, hplace, hread⟩ := h.page p hpage
    rw [hplace, checkPage_mapping hread]

/-- What is read from a record that describes a draft is what the draft amounts to. -/
theorem IsDescribedBy.checkPayload_eq_iff (hd : d.IsDescribedBy links fields) :
    checkPayload d.kind fields .absent = .ok (.sound payload) ↔ d.Yields payload := by
  have hcontent := hd.content
  cases d with
  | entity content =>
    simp only [Draft.kind, Draft.content] at hcontent ⊢
    simp only [checkPayload, hcontent, bind_eq_ok_iff, pure, Except.pure, Except.ok.injEq,
      Checked.map_eq_sound_iff, Checked.inField_eq_sound_iff]
    constructor
    · rintro ⟨_, hchecked, value, rfl, rfl⟩
      obtain ⟨hnull, rfl⟩ := checkContent_eq_sound_iff.mp hchecked
      exact .entity hnull
    · intro hyields
      cases hyields with
      | entity hnull => exact ⟨_, checkContent_eq_sound_iff.mpr ⟨hnull, rfl⟩, content, rfl, rfl⟩
  | collection contents =>
    simp only [Draft.kind, Draft.content] at hcontent ⊢
    simp only [checkPayload, hcontent, bind_eq_ok_iff, pure, Except.pure, Except.ok.injEq,
      exists_inferType_iff]
    constructor
    · rintro ⟨items, hmembers, rfl⟩
      exact .collection hmembers
    · intro hyields
      cases hyields with
      | collection hmembers => exact ⟨_, hmembers, rfl⟩
  | paged contents page =>
    have hpage := hd.checkPage_eq rfl
    simp only [Draft.kind, Draft.content] at hcontent ⊢
    simp only [checkPayload, hcontent, hpage, bind_eq_ok_iff, pure, Except.pure, Except.ok.injEq,
      exists_eq_left', exists_inferType_page_iff]
    constructor
    · rintro ⟨items, _, hmembers, ⟨⟩, rfl⟩
      exact .paged hmembers
    · intro hyields
      cases hyields with
      | paged hmembers => exact ⟨_, page, hmembers, rfl, rfl⟩
  | sliced contents page =>
    have hpage := hd.checkPage_eq rfl
    simp only [Draft.kind, Draft.content] at hcontent ⊢
    simp only [checkPayload, hcontent, hpage, bind_eq_ok_iff, pure, Except.pure, Except.ok.injEq,
      exists_eq_left', exists_inferType_page_iff]
    constructor
    · rintro ⟨items, _, hmembers, hslice, rfl⟩
      obtain ⟨rfl, huncounted⟩ := checkSlice_eq_sound_iff.mp hslice
      exact .sliced hmembers huncounted
    · intro hyields
      cases hyields with
      | sliced hmembers huncounted =>
        exact ⟨_, page, hmembers, checkSlice_eq_sound_iff.mpr ⟨rfl, huncounted⟩, rfl⟩

/-- Read from a record that describes it, a draft makes the same representation. -/
theorem IsDescribedBy.ofFields_iff_makes (hd : d.IsDescribedBy links fields) :
    ofFields d.kind fields .absent = .ok m ↔ d.Makes links m := by
  rw [Representation.ofFields_eq_ok_iff, hd.checkKind_eq, hd.checkLinks_eq, hd.checkPayload_eq_iff]
  constructor
  · rintro ⟨-, hlinks, hpayload, hlabel⟩
    exact ⟨hpayload, (Checked.sound.inj (Except.ok.inj hlinks)).symm, hlabel⟩
  · rintro ⟨hpayload, hlinks, hlabel⟩
    exact ⟨rfl, by rw [hlinks], hpayload, hlabel⟩

/-- A draft with links and the record that describes them make the same representation, or both make
none. -/
theorem build_eq_ok_iff_ofRecord {links : List (List Link)}
    (hd : d.IsDescribedBy links.flatten fields) :
    (∀ m, d.build links .absent = .ok m ↔ ofRecord d.kind (.mapping fields) .absent = .ok m) ∧
      ((∃ m, d.build links .absent = .ok m) ↔ ∃ payload, d.Yields payload) ∧
      ∀ m, d.build links .absent = .ok m →
        m.links = OrderedSet.ofList Link.sameAs links.flatten ∧ d.Yields m.payload ∧
          m.payload.elementType? = (m.payload.items?.getD []).head?.map ElementType.of := by
  refine ⟨fun m => build_eq_ok_iff.trans hd.ofFields_iff_makes.symm, ?_, fun m hm => ?_⟩
  · constructor
    · rintro ⟨m, hm⟩
      exact ⟨m.payload, (build_eq_ok_iff.mp hm).payload⟩
    · rintro ⟨payload, hpayload⟩
      exact ⟨{ payload, links := OrderedSet.ofList Link.sameAs links.flatten },
        build_eq_ok_iff.mpr ⟨hpayload, rfl, rfl⟩⟩
  · obtain ⟨hpayload, hlinks, -⟩ := build_eq_ok_iff.mp hm
    exact ⟨hlinks, hpayload, hpayload.elementType?_eq⟩

/-- A page made of the characters of a text, with an equal link among two arguments. -/
theorem build_eq_ok_iff_ofRecord_paged :
    ∃ (k l p : Link) (page : Page) (d : Draft) (fields : Fields) (m : Representation),
      k.sameAs l = true ∧ k ≠ l ∧ d = .paged (.text "ab".toList) (some page) ∧
      d.IsDescribedBy [k, l, p] fields ∧ d.build [[k], [l, p]] .absent = .ok m ∧
      ofRecord .paged (.mapping fields) .absent = .ok m ∧ m.links = [k, p] ∧
      m.payload.items? = some [.text "a".toList, .text "b".toList] ∧
      m.payload.elementType? = some ⟨"str".toList⟩ := by
  let k : Link := { href := "/a".toList, rel := ⟨"Next".toList⟩ }
  let l : Link := { href := "/a".toList, rel := Relation.next }
  let p : Link := { href := "/\x7bpage\x7d".toList, rel := Relation.self, title := some [] }
  let page : Page := ⟨2, 0, some 3, some 2⟩
  let d : Draft := .paged (.text "ab".toList) (some page)
  let fields : Fields := [(.text "content".toList, .text "ab".toList),
    (.text "links".toList, .list ([k, l, p].map Link.toValue)),
    (.text "metadata".toList, .mapping page.fields)]
  let m : Representation := assemble
    (.paged [.text "a".toList, .text "b".toList] (some ⟨"str".toList⟩) (some page)) [[k], [l, p]]
  have hwell : ∀ x ∈ [k, l, p], x.IsWellFormed := by decide +kernel
  have hd : d.IsDescribedBy [[k], [l, p]].flatten fields := by
    refine ⟨Or.inl rfl, rfl, ⟨_, rfl, ?_⟩, ?_, ?_⟩
    · exact List.forall₂_map_left_iff.mpr
        (List.forall₂_same.mpr fun x hx => (hwell x hx).ofRecord_toValue)
    · intro h
      cases h
    · rintro _ ⟨⟩
      exact ⟨page.fields, rfl, by decide +kernel⟩
  have hm : d.build [[k], [l, p]] .absent = .ok m := rfl
  obtain ⟨hsame, -, hmade⟩ := build_eq_ok_iff_ofRecord hd
  obtain ⟨hlinks, -, htype⟩ := hmade m hm
  refine ⟨k, l, p, page, d, fields, m, by decide +kernel, by decide, rfl, hd, hm,
    (hsame m).mp hm, ?_, rfl, htype⟩
  rw [hlinks]
  decide +kernel

end Draft

end WebLinking
