import WebLinking.Proofs.Checked
import WebLinking.Proofs.OrderedSet
import WebLinking.Proofs.Outcome
import WebLinking.Representation.Validation

/-!
# Representations that are built

A representation is made of its payload and links, with the links as arguments or as a
field, or is read from a record. Whatever the links are that it is given, it holds the first
of those that count as equal.
-/

namespace WebLinking.Representation

/-- Adding the links of several arguments adds all of them, one argument after another, and
nothing else. -/
theorem assemble_eq (payload : Payload) (links : List (List Link)) :
    assemble payload links =
      { payload, links := OrderedSet.ofList Link.sameAs links.flatten } := by
  have hall : ∀ m : Representation, links.foldl add m =
      { m with links := OrderedSet.insertAll Link.sameAs m.links links.flatten } := by
    induction links with
    | nil => exact fun m => rfl
    | cons first more ih =>
      intro m
      rw [List.foldl_cons, ih, List.flatten_cons, OrderedSet.insertAll_append]
      rfl
  exact hall _

/-- An assembled representation holds the first ones of the links of its arguments. -/
theorem links_assemble (payload : Payload) (links : List (List Link)) :
    (assemble payload links).links = OrderedSet.ofList Link.sameAs links.flatten :=
  congrArg Representation.links (assemble_eq payload links)

/-- The links of a record are the first ones of those that count as equal. -/
theorem exists_ofList_of_checkLinks {given : Option Value} {links : List Link}
    (h : checkLinks given = .ok (.sound links)) :
    ∃ xs, links = OrderedSet.ofList Link.sameAs xs := by
  have hlist : ∀ values : List Value,
      (do return (← checkLinksFrom 0 values).map (OrderedSet.ofList Link.sameAs)) =
          Except.ok (.sound links) → ∃ xs, links = OrderedSet.ofList Link.sameAs xs := by
    intro values h
    obtain ⟨checked, -, h⟩ := bind_eq_ok_iff.mp h
    obtain ⟨xs, -, hxs⟩ := Checked.map_eq_sound_iff.mp (Except.ok.inj h)
    exact ⟨xs, hxs.symm⟩
  unfold checkLinks at h
  split at h
  · cases h
    exact ⟨[], rfl⟩
  · exact hlist _ h
  · exact hlist _ h
  · cases h

/-- Records that describe links are sound, whatever their place is. -/
theorem checkLinksFrom_eq_sound {values : List Value} {links : List Link}
    (h : List.Forall₂ (fun value l => Link.ofRecord value = .ok l) values links) (place : Nat) :
    checkLinksFrom place values = .ok (.sound links) := by
  induction h generalizing place with
  | nil => rfl
  | cons hvalue _ ih =>
    rw [checkLinksFrom, Checked.bind_settle_eq_ok_iff.mp hvalue, ih]
    rfl

/-- A field of records that describe links has the first ones of those that count as equal. -/
theorem checkLinks_eq_sound {given : Option Value} {values : List Value} {links : List Link}
    (hgiven : given = some (.list values) ∨ given = some (.tuple values))
    (h : List.Forall₂ (fun value l => Link.ofRecord value = .ok l) values links) :
    checkLinks given = .ok (.sound (OrderedSet.ofList Link.sameAs links)) := by
  rcases hgiven with rfl | rfl
  · rw [checkLinks, checkLinksFrom_eq_sound h]
    rfl
  · rw [checkLinks, checkLinksFrom_eq_sound h]
    rfl

/-- A record is a representation if its kind, its links and its payload are sound. -/
theorem settle_parts_eq_ok_iff {kind : Checked Unit} {links : Checked (List Link)}
    {payload : Checked Payload} {m : Representation} :
    ((fun _ links payload => ({ payload, links } : Representation)) <$> kind <*>
        links.inField "links" <*> payload).settle = .ok m ↔
      kind = .sound () ∧ links = .sound m.links ∧ payload = .sound m.payload ∧
        m.label = .text m.payload.kind.text := by
  simp only [Checked.settle_eq_ok_iff, Checked.seq_eq_sound_iff, Checked.map_eq_sound_iff,
    Checked.inField_eq_sound_iff]
  constructor
  · rintro ⟨_, ⟨_, ⟨⟨⟩, hkind, rfl⟩, links, hlinks, rfl⟩, payload, hpayload, rfl⟩
    exact ⟨hkind, hlinks, hpayload, rfl⟩
  · rintro ⟨hkind, hlinks, hpayload, hlabel⟩
    refine ⟨_, ⟨_, ⟨(), hkind, rfl⟩, m.links, hlinks, rfl⟩, m.payload, hpayload, ?_⟩
    rw [← hlabel]

/-- Checks what a representation is about; the type of its elements, if it is not given, is taken
from the first one. -/
def checkPayload (kind : RepresentationKind) (fields : Fields) (elementType : TypeInput) :
    Except Fault (Checked Payload) :=
  match kind with
  | .representation => return .sound .bare
  | .entity => do
    let content ← checkContent (fields.get? "content".toList)
    return .entity <$> content.inField "content"
  | .collection => do
    let (content, elementType) ← inferType (fields.get? "content".toList) elementType
    return .collection <$> (checkItems content).inField "content" <*>
      elementType.check.inField "element_type"
  | .paged => do
    let (content, elementType) ← inferType (fields.get? "content".toList) elementType
    let page ← checkPage (fields.get? "metadata".toList)
    return .paged <$> (checkItems content).inField "content" <*>
      elementType.check.inField "element_type" <*> page.inField "metadata"
  | .sliced => do
    let (content, elementType) ← inferType (fields.get? "content".toList) elementType
    let page ← checkPage (fields.get? "metadata".toList)
    return .sliced <$> (checkItems content).inField "content" <*>
      elementType.check.inField "element_type" <*> (page.andThen checkSlice).inField "metadata"

/-- Fields are a representation if their kind, their links and what it is about are sound. -/
theorem ofFields_eq_ok_iff {kind : RepresentationKind} {fields : Fields} {elementType : TypeInput}
    {m : Representation} :
    ofFields kind fields elementType = .ok m ↔
      checkKind kind (fields.get? "kind".toList) = .sound () ∧
        checkLinks (fields.get? "links".toList) = .ok (.sound m.links) ∧
        checkPayload kind fields elementType = .ok (.sound m.payload) ∧
        m.label = .text m.payload.kind.text := by
  cases kind
  all_goals
    simp only [ofFields, checkPayload, bind_eq_ok_iff, settle_parts_eq_ok_iff, pure, Except.pure,
      Checked.inField_eq_sound_iff, Except.ok.injEq]
    grind

/-- A representation that is read from a record holds the first ones of some links. -/
theorem exists_ofList_of_ofRecord {kind : RepresentationKind} {value : Value}
    {elementType : TypeInput} {m : Representation} (h : ofRecord kind value elementType = .ok m) :
    ∃ xs, m.links = OrderedSet.ofList Link.sameAs xs := by
  unfold ofRecord at h
  split at h
  · exact exists_ofList_of_checkLinks (ofFields_eq_ok_iff.mp h).2.1
  · cases h

/-- The ways in which a representation is built. -/
inductive IsBuilt : Representation → Prop
  /-- Of links alone. -/
  | ofLinks (links : List Link) : IsBuilt (ofLinks links)
  /-- Of one value and links as arguments. -/
  | entity {content : Value} {links : List (List Link)} {m : Representation} :
      entity content links = .ok m → IsBuilt m
  /-- Of elements and links as arguments. -/
  | collection {contents : Value} {links : List (List Link)} {fallback : TypeInput}
      {m : Representation} : collection contents links fallback = .ok m → IsBuilt m
  /-- Of a page of elements and links as arguments. -/
  | paged {contents : Value} {page : Option Page} {links : List (List Link)}
      {fallback : TypeInput} {m : Representation} :
      paged contents page links fallback = .ok m → IsBuilt m
  /-- Of a slice of elements and links as arguments. -/
  | sliced {contents : Value} {page : Option Page} {links : List (List Link)}
      {fallback : TypeInput} {m : Representation} :
      sliced contents page links fallback = .ok m → IsBuilt m
  /-- Of the fields of a record. -/
  | ofRecord {kind : RepresentationKind} {value : Value} {elementType : TypeInput}
      {m : Representation} : ofRecord kind value elementType = .ok m → IsBuilt m
  /-- Of the payload of another one and of links as a field. -/
  | withLinks {m : Representation} (links : List Link) :
      IsBuilt m → IsBuilt { m with links := OrderedSet.ofList Link.sameAs links }

/-- Whatever way a representation is built in, it holds the first ones of some links. -/
theorem IsBuilt.exists_ofList {m : Representation} (hm : m.IsBuilt) :
    ∃ xs, m.links = OrderedSet.ofList Link.sameAs xs := by
  induction hm with
  | ofLinks links => exact ⟨links, rfl⟩
  | entity h =>
    unfold Representation.entity at h
    split at h
    · cases h
    · cases h
      exact ⟨_, links_assemble _ _⟩
  | collection h =>
    obtain ⟨items, -, h⟩ := bind_eq_ok_iff.mp h
    obtain ⟨elementType, -, h⟩ := bind_eq_ok_iff.mp h
    cases h
    exact ⟨_, links_assemble _ _⟩
  | paged h =>
    obtain ⟨items, -, h⟩ := bind_eq_ok_iff.mp h
    obtain ⟨elementType, -, h⟩ := bind_eq_ok_iff.mp h
    cases h
    exact ⟨_, links_assemble _ _⟩
  | sliced h =>
    obtain ⟨items, -, h⟩ := bind_eq_ok_iff.mp h
    obtain ⟨payload, -, h⟩ := bind_eq_ok_iff.mp h
    cases h
    exact ⟨_, links_assemble _ _⟩
  | ofRecord h => exact exists_ofList_of_ofRecord h
  | withLinks links _ _ => exact ⟨links, rfl⟩

/-- No two links of a representation count as equal when it is built. -/
theorem IsBuilt.pairwise {m : Representation} (hm : m.IsBuilt) :
    m.links.Pairwise fun k l => k.sameAs l = false := by
  obtain ⟨xs, hxs⟩ := hm.exists_ofList
  rw [hxs]
  exact OrderedSet.pairwise_ofList xs

end WebLinking.Representation
