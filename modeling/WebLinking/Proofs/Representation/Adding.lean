import WebLinking.Proofs.Representation.Draft

/-!
# Laws of adding

Adding links keeps those that are there and puts behind them those that are new, and what is new
is decided by what was there and by what came before. So it does not matter in which portions
links are added, and adding them again does nothing. A representation that is made with links,
of arguments or from a record, is the one that is made without any, with these links added.
-/

namespace WebLinking

namespace Link

/-- A link counts as equal to itself. -/
theorem sameAs_refl (l : Link) : l.sameAs l = true := beq_self_eq_true l.normal

/-- Links that count as equal to one link count as equal to each other. -/
theorem sameAs_trans (k l p : Link) (hkl : k.sameAs l = true) (hlp : l.sameAs p = true) :
    k.sameAs p = true :=
  beq_iff_eq.mpr ((eq_of_beq hkl).trans (eq_of_beq hlp))

end Link

namespace Representation

/-- Behind the links that were there come those that are new, in order. -/
theorem links_add (m : Representation) (links : List Link) :
    (m.add links).links = m.links ++ OrderedSet.newcomers Link.sameAs m.links links :=
  OrderedSet.insertAll_eq_append_newcomers Link.sameAs_refl Link.sameAs_trans m.links links

/-- Two portions are added as one. -/
theorem add_add (m : Representation) (xs ys : List Link) :
    (m.add xs).add ys = m.add (xs ++ ys) := by
  simp only [add, OrderedSet.insertAll_append]

/-- Links that are added once more change nothing. -/
theorem add_self (m : Representation) (links : List Link) :
    (m.add links).add links = m.add links := by
  simp only [add, OrderedSet.insertAll_insertAll_self Link.sameAs_refl]

/-- Links are added one by one. -/
theorem foldl_add_singleton (m : Representation) (links : List Link) :
    links.foldl (fun m l => m.add [l]) m = m.add links := by
  induction links generalizing m with
  | nil => rfl
  | cons l links ih => rw [List.foldl_cons, ih, add_add, List.singleton_append]

/-- A representation is one without links, to which links are added. -/
structure IsEmptyWith (links : List Link) (m empty : Representation) : Prop where
  /-- The other one has no links. -/
  links_eq_nil : empty.links = []
  /-- The links are added to it. -/
  eq_add : m = empty.add links

/-- The links of arguments are added to what is made of a payload without arguments. -/
theorem isEmptyWith_assemble (payload : Payload) (links : List (List Link)) :
    IsEmptyWith links.flatten (assemble payload links) (assemble payload []) :=
  ⟨rfl, assemble_eq payload links⟩

/-- A record has links that another one has not, and is the same otherwise. -/
structure AddsLinks (fields bare : Fields) (links : List Link) : Prop where
  /-- The other record has no links. -/
  absent : bare.get? "links".toList = none
  /-- The links are described one by one. -/
  links : ∃ values, (fields.get? "links".toList = some (.list values) ∨
      fields.get? "links".toList = some (.tuple values)) ∧
    List.Forall₂ (fun value l => Link.ofRecord value = .ok l) values links
  /-- The records agree in every other field. -/
  others : ∀ name, name ≠ "links".toList → fields.get? name = bare.get? name

variable {fields bare : Fields} {links : List Link}

private theorem AddsLinks.checkLinks (h : AddsLinks fields bare links) :
    Alike (fun found none => found = .sound (OrderedSet.ofList Link.sameAs links) ∧
        none = .sound [])
      (checkLinks (fields.get? "links".toList)) (checkLinks (bare.get? "links".toList)) := by
  obtain ⟨values, hvalues, hread⟩ := h.links
  rw [checkLinks_eq_sound hvalues hread, h.absent]
  exact .ok ⟨rfl, rfl⟩

private theorem settle_parts_alike (kind : Checked Unit) (payload : Checked Payload) :
    Alike (IsEmptyWith links)
      ((fun _ links payload => ({ payload, links } : Representation)) <$> kind <*>
        (Checked.sound (OrderedSet.ofList Link.sameAs links)).inField "links" <*> payload).settle
      ((fun _ links payload => ({ payload, links } : Representation)) <$> kind <*>
        (Checked.sound []).inField "links" <*> payload).settle := by
  cases kind with
  | halted fault => exact .error _
  | flawed failures => cases payload <;> exact .error _
  | sound _ =>
    cases payload with
    | flawed _ | halted _ => exact .error _
    | sound payload => exact .ok ⟨rfl, rfl⟩

/-- A record with links is read as the record without them is, with the links added. -/
theorem AddsLinks.ofFields (h : AddsLinks fields bare links) (kind : RepresentationKind)
    (elementType : TypeInput) :
    Alike (IsEmptyWith links) (ofFields kind fields elementType)
      (ofFields kind bare elementType) := by
  have hkind := h.others "kind".toList (by decide)
  have hcontent := h.others "content".toList (by decide)
  have hplace := h.others "metadata".toList (by decide)
  cases kind with
  | representation =>
    simp only [Representation.ofFields, hkind]
    refine h.checkLinks.bind ?_
    rintro _ _ ⟨rfl, rfl⟩
    exact settle_parts_alike _ _
  | entity =>
    simp only [Representation.ofFields, hkind, hcontent]
    refine h.checkLinks.bind ?_
    rintro _ _ ⟨rfl, rfl⟩
    refine (Alike.refl _).bind ?_
    rintro content _ rfl
    exact settle_parts_alike _ _
  | collection =>
    simp only [Representation.ofFields, hkind, hcontent]
    refine (Alike.refl _).bind ?_
    rintro typed _ rfl
    refine h.checkLinks.bind ?_
    rintro _ _ ⟨rfl, rfl⟩
    exact settle_parts_alike _ _
  | paged | sliced =>
    simp only [Representation.ofFields, hkind, hcontent, hplace]
    refine (Alike.refl _).bind ?_
    rintro typed _ rfl
    refine h.checkLinks.bind ?_
    rintro _ _ ⟨rfl, rfl⟩
    refine (Alike.refl _).bind ?_
    rintro page _ rfl
    exact settle_parts_alike _ _

/-- What is made of a draft with links as arguments is what is made of it without arguments, with
the links added. -/
theorem alike_build (d : Draft) (links : List (List Link)) (fallback : TypeInput) :
    Alike (IsEmptyWith links.flatten) (d.build links fallback) (d.build [] fallback) := by
  cases d with
  | entity content =>
    rw [Draft.build, Draft.build, entity, entity]
    split
    · exact .error _
    · exact .ok (isEmptyWith_assemble _ links)
  | collection | paged | sliced =>
    refine (Alike.refl _).bind ?_
    rintro items _ rfl
    refine (Alike.refl _).bind ?_
    rintro payload _ rfl
    exact .ok (isEmptyWith_assemble _ links)

/-- Adding is idempotent, goes on portion by portion, and is the same as making a representation
with the links. -/
theorem add_laws (m : Representation) (xs ys : List Link) :
    (m.add xs).links = m.links ++ OrderedSet.newcomers Link.sameAs m.links xs ∧
      (m.add xs).add ys = m.add (xs ++ ys) ∧
      xs.foldl (fun m l => m.add [l]) m = m.add xs ∧
      (m.add xs).add xs = m.add xs ∧
      IsEmptyWith xs (ofLinks xs) (ofLinks []) ∧
      (∀ (d : Draft) (links : List (List Link)) (fallback : TypeInput), links.flatten = xs →
        Alike (IsEmptyWith xs) (d.build links fallback) (d.build [] fallback)) ∧
      ∀ (fields bare : Fields) (kind : RepresentationKind) (elementType : TypeInput),
        AddsLinks fields bare xs →
          Alike (IsEmptyWith xs) (ofRecord kind (.mapping fields) elementType)
            (ofRecord kind (.mapping bare) elementType) := by
  refine ⟨links_add m xs, add_add m xs ys, foldl_add_singleton m xs, add_self m xs, ⟨rfl, rfl⟩,
    ?_, fun fields bare kind elementType h => h.ofFields kind elementType⟩
  rintro d links fallback rfl
  exact alike_build d links fallback

/-- Links of which two count as equal and one is there already, as arguments of a slice and in its
record. -/
theorem add_laws_slice :
    ∃ (k l p q : Link) (m : Representation) (fields bare : Fields),
      k.sameAs l = true ∧ k ≠ l ∧ m.links = [k, q] ∧ AddsLinks fields bare [l, p, l] ∧
      (m.add [l, p, l]).links = [k, q, p] ∧ (m.add [l]).add [p, l] = m.add [l, p, l] ∧
      (m.add [l, p, l]).add [l, p, l] = m.add [l, p, l] ∧
      IsEmptyWith [l, p, l] (ofLinks [l, p, l]) (ofLinks []) ∧
      Alike (IsEmptyWith [l, p, l]) ((Draft.sliced (.list []) none).build [[l], [p, l]] .absent)
        ((Draft.sliced (.list []) none).build [] .absent) ∧
      Alike (IsEmptyWith [l, p, l]) (ofRecord .sliced (.mapping fields) .absent)
        (ofRecord .sliced (.mapping bare) .absent) := by
  let k : Link := { href := "/a".toList, rel := ⟨"Next".toList⟩ }
  let l : Link := { href := "/a".toList, rel := Relation.next }
  let p : Link := { href := "/b".toList, rel := Relation.next }
  let q : Link := { href := "/c".toList, rel := Relation.self }
  let m : Representation := { payload := .bare, links := [k, q] }
  let bare : Fields := [(.text "kind".toList, .text "sliced".toList)]
  let fields : Fields := (.text "links".toList, .tuple ([l, p, l].map Link.toValue)) :: bare
  have hwell : ∀ x ∈ [l, p, l], x.IsWellFormed := by decide +kernel
  have hfields : AddsLinks fields bare [l, p, l] := by
    refine ⟨rfl, ⟨_, Or.inr rfl, ?_⟩, fun name hname => if_neg hname.symm⟩
    exact List.forall₂_map_left_iff.mpr
      (List.forall₂_same.mpr fun x hx => (hwell x hx).ofRecord_toValue)
  obtain ⟨hlinks, -, -, hself, hmade, hbuild, hread⟩ := add_laws m [l, p, l] []
  obtain ⟨-, hportions, -⟩ := add_laws m [l] [p, l]
  refine ⟨k, l, p, q, m, fields, bare, by decide +kernel, by decide, rfl, hfields, ?_, hportions,
    hself, hmade, hbuild _ [[l], [p, l]] .absent rfl, hread fields bare .sliced .absent hfields⟩
  rw [hlinks]
  decide +kernel

end Representation

end WebLinking
