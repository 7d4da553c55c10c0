import WebLinking.Proofs.Representation.Failure

/-!
# Looking up and removing by relation

A relation that is given stands for one form, its spelling in small letters, and splits the
links of a representation: those whose relation has the form, and all others. Every question
about a relation is answered from the first part, and removing the links of a relation leaves
the second, in its order.
-/

namespace WebLinking

namespace RelationInput

/-- What is given stands for the relations of a form, which is not empty. -/
structure StandsFor (rel : RelationInput) (form : Text) : Prop where
  /-- The relation was made before. -/
  made : rel.IsMade
  /-- In small letters its spelling is the form. -/
  form_eq : rel.form = .sound form
  /-- It is not blank. -/
  ne_nil : form ≠ []

/-- A relation that is not blank can be made, and it is compared in its form. -/
theorem StandsFor.exists_resolve {rel : RelationInput} {form : Text} (h : rel.StandsFor form) :
    ∃ r, rel.resolve = .ok r ∧ r.normalized = form := by
  obtain ⟨t, ht, rfl⟩ := Checked.map_eq_sound_iff.mp h.form_eq
  have hne : t ≠ [] := mt Text.lower_eq_nil_iff.mpr h.ne_nil
  have hspelling : Relation.ofSpelling t = .sound ⟨t⟩ :=
    Relation.ofSpelling_eq_sound_iff.mpr ⟨hne, rfl⟩
  rw [h.made.resolve_eq, ht, Checked.andThen, hspelling]
  exact ⟨⟨t⟩, rfl, rfl⟩

end RelationInput

namespace Representation

variable {m : Representation} {rel : RelationInput} {form form' : Text}

/-- The links whose relation has a form, in order. -/
def linksIn (m : Representation) (form : Text) : List Link :=
  m.links.filter fun l => l.rel.normalized == form

/-- The representation without the links whose relation has a form. -/
def without (m : Representation) (form : Text) : Representation :=
  { m with links := m.links.filter fun l => l.rel.normalized != form }

/-- No link whose relation has the form is left. -/
theorem linksIn_without_self (m : Representation) (form : Text) :
    (m.without form).linksIn form = [] := by
  rw [linksIn, without, List.filter_filter, List.filter_eq_nil_iff]
  intro l _
  simp

/-- The links whose relation has another form stay as they are. -/
theorem linksIn_without_of_ne (m : Representation) (h : form' ≠ form) :
    (m.without form).linksIn form' = m.linksIn form' := by
  rw [linksIn, without, List.filter_filter, linksIn]
  apply List.filter_congr
  intro l _
  by_cases hl : l.rel.normalized = form'
  · simp [hl, h]
  · simp [hl]

/-- What is left is what is not among the links whose relation has the form. -/
theorem links_without (m : Representation) (form : Text) :
    (m.without form).links = m.links.filter fun l => !(m.linksIn form).contains l := by
  rw [without]
  apply List.filter_congr
  intro l hl
  have hmem : l ∈ m.linksIn form ↔ l.rel.normalized = form := by
    rw [linksIn, List.mem_filter, beq_iff_eq]
    exact and_iff_right hl
  rw [bne, Bool.not_inj_iff, Bool.eq_iff_iff, beq_iff_eq, List.contains_iff_mem]
  exact hmem.symm

theorem linksOf_eq (h : rel.StandsFor form) : m.linksOf (some rel) = .ok (m.linksIn form) := by
  obtain ⟨r, hr, rfl⟩ := h.exists_resolve
  rw [linksOf, hr]
  rfl

theorem link?_eq_head? (h : rel.StandsFor form) :
    m.link? (some rel) = .ok (m.linksIn form).head? := by
  rw [link?, linksOf_eq h]
  rfl

theorem hasLink_eq (h : rel.StandsFor form) :
    m.hasLink (some rel) = .ok (m.linksIn form).head?.isSome := by
  rw [hasLink, link?_eq_head? h]
  rfl

/-- A link that must be there is the first one; a fault names the relation as it is given. -/
theorem requiredLink_eq (h : rel.StandsFor form) : m.requiredLink (some rel) =
    match (m.linksIn form).head? with
    | some l => .ok l
    | none => .error (.linkNotFound rel.spelling) := by
  rw [requiredLink, link?_eq_head? h]
  cases (m.linksIn form).head? <;> rfl

theorem removeLinks_eq_without (h : rel.StandsFor form) :
    m.removeLinks (some rel) = .ok (m.without form) := by
  obtain ⟨r, hr, rfl⟩ := h.exists_resolve
  rw [removeLinks, hr]
  rfl

/-- A relation splits the links: questions are answered from those of its form, and removal leaves
the others. -/
theorem relation_splits_links (m : Representation) (h : rel.StandsFor form) :
    let found := m.links.filter fun l => l.rel.normalized == form
    m.linksOf (some rel) = .ok found ∧
      m.link? (some rel) = .ok found.head? ∧
      m.hasLink (some rel) = .ok (!found.isEmpty) ∧
      (∀ l, m.requiredLink (some rel) = .ok l ↔ found.head? = some l) ∧
      (∀ fault, m.requiredLink (some rel) = .error fault ↔
        found = [] ∧ fault = .linkNotFound rel.spelling) ∧
      ∃ m', m.removeLinks (some rel) = .ok m' ∧
        m'.linksOf (some rel) = .ok [] ∧
        (∀ rel' form', rel'.StandsFor form' → form' ≠ form →
          m'.linksOf (some rel') = m.linksOf (some rel')) ∧
        m' = { m with links := m.links.filter fun l => !found.contains l } := by
  intro found
  have hfound : found = m.linksIn form := rfl
  rw [hfound]
  refine ⟨linksOf_eq h, link?_eq_head? h, ?_, fun l => ?_, fun fault => ?_, m.without form,
    removeLinks_eq_without h, ?_, fun rel' form' h' hne => ?_, ?_⟩
  · rw [hasLink_eq h]
    cases m.linksIn form <;> rfl
  · rw [requiredLink_eq h]
    cases (m.linksIn form).head? <;> simp
  · rw [requiredLink_eq h, ← List.head?_eq_none_iff]
    cases (m.linksIn form).head? <;> simp [eq_comm]
  · rw [linksOf_eq h, linksIn_without_self]
  · rw [linksOf_eq h', linksOf_eq h', linksIn_without_of_ne m hne]
  · rw [← links_without]
    rfl

/-- Links whose relation is spelled in two ways, looked up in a third one with blanks around it. -/
theorem relation_splits_links_spellings :
    ∃ (k l p : Link) (rel rel' : RelationInput) (m m' : Representation),
      k.rel.value = "ὁδός".toList ∧ l.rel.value = "ὉΔΌΣ".toList ∧
      rel = .raw (.text " Ὁδός\t".toList) ∧ rel' = .raw (.text "NEXT".toList) ∧
      m.links = [k, p, l] ∧ m.linksOf (some rel) = .ok [k, l] ∧
      m.requiredLink (some rel) = .ok k ∧ m.removeLinks (some rel) = .ok m' ∧ m'.links = [p] ∧
      m'.linksOf (some rel) = .ok [] ∧ m'.linksOf (some rel') = m.linksOf (some rel') := by
  let k : Link := { href := "/a".toList, rel := ⟨"ὁδός".toList⟩ }
  let l : Link := { href := "/b".toList, rel := ⟨"ὉΔΌΣ".toList⟩ }
  let p : Link := { href := "/c".toList, rel := Relation.next }
  let rel : RelationInput := .raw (.text " Ὁδός\t".toList)
  let rel' : RelationInput := .raw (.text "NEXT".toList)
  let m : Representation := { payload := .bare, links := [k, p, l] }
  have hrel : rel.StandsFor "ὁδός".toList := ⟨trivial, by decide +kernel, by decide⟩
  have hrel' : rel'.StandsFor "next".toList := ⟨trivial, by decide +kernel, by decide⟩
  have hfound : (m.links.filter fun l => l.rel.normalized == "ὁδός".toList) = [k, l] := by
    decide +kernel
  obtain ⟨hlinks, -, -, hrequired, -, m', hremoved, hnone, hother, hleft⟩ :=
    relation_splits_links m hrel
  rw [hfound] at hlinks hrequired hleft
  refine ⟨k, l, p, rel, rel', m, m', rfl, rfl, rfl, rfl, rfl, hlinks, (hrequired k).mpr rfl,
    hremoved, ?_, hnone, hother rel' _ hrel' (by decide)⟩
  rw [hleft]
  decide +kernel

end Representation

end WebLinking
