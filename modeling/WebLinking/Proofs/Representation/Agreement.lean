import WebLinking.Proofs.Link.Header
import WebLinking.Proofs.OrderedSet
import WebLinking.Representation.Step

/-!
# Runs that differ in the spelling of relations

Relations are compared without regard to letter case and to the blanks around them, but a
link keeps the spelling that it came with, and of equal links the first one stays. So two
representations may hold links in different spellings. Whatever steps are taken on both, the
links given being equal and the relations given differing in spelling only, the two cannot be
told apart: each step fails on both or answers alike on both, and their links stay equal.
-/

namespace WebLinking

/-- Lower-casing leaves something of every text that is not empty. -/
theorem Text.lower_eq_nil_iff {t : Text} : lower t = [] ↔ t = [] := by
  refine ⟨fun h => ?_, fun h => by rw [h]; rfl⟩
  cases t with
  | nil => rfl
  | cons c rest =>
    have hletter : lowerChar c ≠ [] := by
      unfold lowerChar
      split
      · exact List.cons_ne_nil _ _
      · split <;> exact List.cons_ne_nil _ _
    rw [lower, lowerAfter] at h
    split at h
    · cases h
    · exact absurd (List.append_eq_nil_iff.mp h).1 hletter

namespace RelationInput

/-- The spelling that is given for a relation, less the blanks around it if it is a text. -/
def spelled : RelationInput → Checked Text
  | .made r => .sound r.value
  | .raw (.scalar (.text t)) => .sound t.trim
  | .raw value => value.asText

/-- The spelling that is given for a relation, in small letters. -/
def form (rel : RelationInput) : Checked Text := Text.lower <$> rel.spelled

/-- Two relations that are given were made before, if they are not made now, and differ in
spelling only. -/
structure Agrees (rel rel' : RelationInput) : Prop where
  /-- The first relation was made before. -/
  made : rel.IsMade
  /-- The second relation was made before. -/
  made' : rel'.IsMade
  /-- In small letters they are the same, or both are refused. -/
  form : rel.form = rel'.form

/-- What is given stands for the relation of its spelling. -/
theorem IsMade.resolve_eq {rel : RelationInput} (hrel : rel.IsMade) :
    rel.resolve = ((rel.spelled.andThen Relation.ofSpelling).inField "value").settle := by
  cases rel with
  | made r =>
    have hr := Relation.ofSpelling_eq_sound_iff.mpr ⟨Relation.exists_of_iff.mp hrel, rfl⟩
    rw [spelled, Checked.andThen, hr]
    rfl
  | raw value =>
    cases value with
    | scalar s => cases s <;> rfl
    | _ => rfl

/-- Relations that are given in two spellings count as equal, or both are refused. -/
theorem Agrees.resolve {rel rel' : RelationInput} (h : rel.Agrees rel') :
    Alike (fun r s => r.sameAs s = true) rel.resolve rel'.resolve := by
  have hform := h.form
  rw [h.made.resolve_eq, h.made'.resolve_eq]
  unfold RelationInput.form at hform
  revert hform
  generalize rel.spelled = x, rel'.spelled = x'
  intro hform
  cases x with
  | sound t =>
    obtain ⟨t', rfl, hlower⟩ := Checked.map_eq_sound_iff.mp hform.symm
    by_cases hempty : t = []
    · have hempty' : t' = [] := by
        rwa [hempty, Text.lower_eq_nil_iff.mpr rfl, Text.lower_eq_nil_iff] at hlower
      rw [hempty, hempty']
      exact .error _
    · have hempty' : t' ≠ [] := by
        rwa [ne_eq, ← Text.lower_eq_nil_iff, hlower, Text.lower_eq_nil_iff]
      simp only [Checked.andThen, Relation.ofSpelling, List.isEmpty_iff, hempty, hempty', if_false]
      exact .ok (beq_iff_eq.mpr hlower.symm)
  | flawed failures =>
    cases x' with
    | flawed failures' =>
      cases hform
      exact .error _
    | _ => cases hform
  | halted fault =>
    cases x' with
    | halted fault' =>
      cases hform
      exact .error _
    | _ => cases hform

end RelationInput

namespace Link

variable {k k' l l' : Link}

/-- Whether two links count as equal does not depend on their spelling. -/
theorem sameAs_congr (hk : k.sameAs k' = true) (hl : l.sameAs l' = true) :
    k.sameAs l = k'.sameAs l' := by
  have hk : k.normal = k'.normal := eq_of_beq hk
  have hl : l.normal = l'.normal := eq_of_beq hl
  rw [sameAs, sameAs, hk, hl]

/-- Whether a link is under a relation does not depend on their spelling. -/
theorem rel_sameAs_congr {r s : Relation} (hl : l.sameAs l' = true) (hr : r.sameAs s = true) :
    l.rel.sameAs r = l'.rel.sameAs s := by
  have hl : l.rel.normalized = l'.rel.normalized := eq_of_beq (rel_sameAs_of_sameAs hl)
  have hr : r.normalized = s.normalized := eq_of_beq hr
  rw [Relation.sameAs, Relation.sameAs, hl, hr]

end Link

/-- Lists of links that count as equal one by one. -/
def SameLinks (links links' : List Link) : Prop :=
  List.Forall₂ (fun l l' => l.sameAs l' = true) links links'

/-- The same links pass two tests that do not depend on spelling. -/
theorem SameLinks.filter {links links' : List Link} (h : SameLinks links links')
    {keep keep' : Link → Bool} (hkeep : ∀ l l', l.sameAs l' = true → keep l = keep' l') :
    SameLinks (links.filter keep) (links'.filter keep') :=
  List.rel_filter (fun l l' hl => iff_of_eq (congrArg (· = true) (hkeep l l' hl))) h

/-- Both lists are empty, or neither is. -/
theorem SameLinks.isEmpty_eq {links links' : List Link} (h : SameLinks links links') :
    links.isEmpty = links'.isEmpty := by
  cases h with
  | nil => rfl
  | cons _ _ => rfl

/-- The first links count as equal, or both lists are empty. -/
theorem SameLinks.head? {links links' : List Link} (h : SameLinks links links') :
    Option.Rel (fun l l' => l.sameAs l' = true) links.head? links'.head? := by
  cases h with
  | nil => exact .none
  | cons hl _ => exact .some hl

/-- Two tests are the same up to the spelling of a relation. -/
inductive LinkTest.Agrees : LinkTest → LinkTest → Prop
  /-- Both look for expressions in the target. -/
  | templated : Agrees .templated .templated
  /-- Both look for a relation. -/
  | relation {rel rel' : RelationInput} (h : rel.Agrees rel') :
      Agrees (.relation rel) (.relation rel')
  /-- Both look for the same start of the target. -/
  | startsWith (start : Text) : Agrees (.startsWith start) (.startsWith start)

/-- Two supplies are asked in the same way for links that count as equal. -/
inductive Supply.Agrees : Supply → Supply → Prop
  /-- Both have links at hand. -/
  | ready {links links' : List Link} (h : SameLinks links links') :
      Agrees (.ready links) (.ready links')
  /-- Both make links if they are asked. -/
  | deferred {links links' : List Link} (h : SameLinks links links') :
      Agrees (.deferred links) (.deferred links')

/-- Two steps are the same up to the spelling of relations: steps that add or remove links or
ask for them. -/
inductive Step.Agrees : Step → Step → Prop
  /-- Both add links. -/
  | add {links links' : List Link} (h : SameLinks links links') : Agrees (.add links) (.add links')
  /-- Both add links on the same condition. -/
  | addIf (condition : Bool) {supply supply' : Supply} (h : supply.Agrees supply') :
      Agrees (.addIf condition supply) (.addIf condition supply')
  /-- Both remove the links of a relation, or all links. -/
  | removeLinks {rel rel' : Option RelationInput} (h : Option.Rel RelationInput.Agrees rel rel') :
      Agrees (.removeLinks rel) (.removeLinks rel')
  /-- Both remove the links that pass a test. -/
  | removeIf {test test' : LinkTest} (h : test.Agrees test') :
      Agrees (.removeIf test) (.removeIf test')
  /-- Both ask for the links of a relation, or all links. -/
  | links {rel rel' : Option RelationInput} (h : Option.Rel RelationInput.Agrees rel rel') :
      Agrees (.links rel) (.links rel')
  /-- Both ask for the first link of a relation. -/
  | link {rel rel' : Option RelationInput} (h : Option.Rel RelationInput.Agrees rel rel') :
      Agrees (.link rel) (.link rel')
  /-- Both ask whether there is a link of a relation. -/
  | hasLink {rel rel' : Option RelationInput} (h : Option.Rel RelationInput.Agrees rel rel') :
      Agrees (.hasLink rel) (.hasLink rel')
  /-- Both ask whether there is any link. -/
  | hasLinks : Agrees .hasLinks .hasLinks

/-- Two answers are the same up to the spelling of relations. -/
inductive Answer.Agrees : Answer → Answer → Prop
  /-- Both answer nothing. -/
  | nothing : Agrees .nothing .nothing
  /-- Both answer how often a supply was asked. -/
  | calls (count : Nat) : Agrees (.calls count) (.calls count)
  /-- Both answer links that count as equal. -/
  | links {links links' : List Link} (h : SameLinks links links') :
      Agrees (.links links) (.links links')
  /-- Both answer a link, and the two count as equal, or both answer none. -/
  | link {link link' : Option Link} (h : Option.Rel (fun l l' => l.sameAs l' = true) link link') :
      Agrees (.link link) (.link link')
  /-- Both answer the same truth value. -/
  | truth (b : Bool) : Agrees (.truth b) (.truth b)

/-- A test that is the same up to spelling ends the same way on links that count as equal. -/
theorem LinkTest.Agrees.run {test test' : LinkTest} (h : test.Agrees test') {l l' : Link}
    (hl : l.sameAs l' = true) : Alike Eq (test.run l) (test'.run l') := by
  have hhref : l.href = l'.href := Link.href_eq_of_sameAs hl
  cases h with
  | templated =>
    simp only [LinkTest.run, Link.isTemplated, Link.template, hhref]
    cases Template.parse l'.href with
    | ok t => exact .ok rfl
    | error e => exact .error e
  | relation h => exact h.resolve.bind fun r s hr => .ok (Link.rel_sameAs_congr hl hr)
  | startsWith start => exact .ok (by rw [hhref])

/-- Supplies that agree have links that count as equal. -/
theorem Supply.Agrees.links {supply supply' : Supply} (h : supply.Agrees supply') :
    SameLinks supply.links supply'.links := by
  cases h with
  | ready h => exact h
  | deferred h => exact h

/-- Supplies that agree are asked equally often. -/
theorem Supply.Agrees.answer {supply supply' : Supply} (h : supply.Agrees supply')
    (condition : Bool) : (supply.answer condition).Agrees (supply'.answer condition) := by
  cases h with
  | ready => exact .nothing
  | deferred => exact .calls _

namespace Representation

/-- Two representations are of one kind, and their links count as equal one by one. -/
structure Agrees (m m' : Representation) : Prop where
  /-- They are of one kind. -/
  kind : m.kind = m'.kind
  /-- Their links count as equal. -/
  links : SameLinks m.links m'.links

variable {m m' : Representation}

theorem Agrees.add (hm : m.Agrees m') {links links' : List Link} (h : SameLinks links links') :
    (m.add links).Agrees (m'.add links') := by
  refine ⟨hm.kind, OrderedSet.rel_insertAll (fun k k' l l' hk hl => ?_) hm.links h⟩
  exact Link.sameAs_congr hk hl

theorem Agrees.linksOf (hm : m.Agrees m') {rel rel' : Option RelationInput}
    (h : Option.Rel RelationInput.Agrees rel rel') :
    Alike SameLinks (m.linksOf rel) (m'.linksOf rel') := by
  cases h with
  | none => exact .ok hm.links
  | some h =>
    exact h.resolve.bind fun r s hr => .ok (hm.links.filter fun l l' hl =>
      Link.rel_sameAs_congr hl hr)

theorem Agrees.link? (hm : m.Agrees m') {rel rel' : Option RelationInput}
    (h : Option.Rel RelationInput.Agrees rel rel') :
    Alike (Option.Rel fun l l' => l.sameAs l' = true) (m.link? rel) (m'.link? rel') :=
  (hm.linksOf h).bind fun _ _ hlinks => .ok hlinks.head?

theorem Agrees.hasLink (hm : m.Agrees m') {rel rel' : Option RelationInput}
    (h : Option.Rel RelationInput.Agrees rel rel') :
    Alike Eq (m.hasLink rel) (m'.hasLink rel') := by
  refine (hm.link? h).bind fun link link' hlink => .ok ?_
  cases hlink with
  | none => rfl
  | some _ => rfl

theorem Agrees.removeLinks (hm : m.Agrees m') {rel rel' : Option RelationInput}
    (h : Option.Rel RelationInput.Agrees rel rel') :
    Alike Agrees (m.removeLinks rel) (m'.removeLinks rel') := by
  cases h with
  | none => exact .ok ⟨hm.kind, .nil⟩
  | some h =>
    refine h.resolve.bind fun r s hr => .ok ⟨hm.kind, hm.links.filter fun l l' hl => ?_⟩
    rw [Link.rel_sameAs_congr hl hr]

private theorem rejecting_agrees {test test' : LinkTest} (h : test.Agrees test')
    {links links' : List Link} (hlinks : SameLinks links links') :
    Alike SameLinks (rejecting test.run links) (rejecting test'.run links') := by
  induction hlinks with
  | nil => exact .ok .nil
  | cons hl _ ih =>
    refine (h.run hl).bind fun passes _ hpasses => ih.bind fun kept kept' hkept => .ok ?_
    rw [← hpasses]
    cases passes with
    | true => exact hkept
    | false => exact .cons hl hkept

theorem Agrees.removeIf (hm : m.Agrees m') {test test' : LinkTest} (h : test.Agrees test') :
    Alike Agrees (m.removeIf test.run) (m'.removeIf test'.run) :=
  (rejecting_agrees h hm.links).bind fun _ _ hkept => .ok ⟨hm.kind, hkept⟩

/-- Steps that agree end alike on representations that agree: in the same fault, or in answers
that agree and representations that agree. -/
theorem Agrees.take (hm : m.Agrees m') {step step' : Step} (h : step.Agrees step') :
    Alike (fun p p' => p.1.Agrees p'.1 ∧ Option.Rel Agrees p.2 p'.2) (m.take step)
      (m'.take step') := by
  cases h with
  | add h => exact .ok ⟨.nothing, .some (hm.add h)⟩
  | addIf condition h =>
    refine .ok ⟨h.answer condition, .some ?_⟩
    cases condition with
    | true => exact hm.add h.links
    | false => exact hm
  | removeLinks h =>
    exact (hm.removeLinks h).bind fun _ _ hremoved => .ok ⟨.nothing, .some hremoved⟩
  | removeIf h => exact (hm.removeIf h).bind fun _ _ hremoved => .ok ⟨.nothing, .some hremoved⟩
  | links h => exact (hm.linksOf h).bind fun _ _ hlinks => .ok ⟨.links hlinks, .none⟩
  | link h => exact (hm.link? h).bind fun _ _ hlink => .ok ⟨.link hlink, .none⟩
  | hasLink h =>
    refine (hm.hasLink h).bind fun b _ hb => .ok ⟨?_, .none⟩
    rw [← hb]
    exact .truth b
  | hasLinks =>
    refine .ok ⟨?_, .none⟩
    rw [hm.links.isEmpty_eq]
    exact .truth _

/-- After steps that agree, representations that agree still do. -/
theorem Agrees.after (hm : m.Agrees m') {step step' : Step} (h : step.Agrees step') :
    (m.after step).Agrees (m'.after step') := by
  have htake := hm.take h
  unfold Representation.after
  revert htake
  generalize m.take step = outcome, m'.take step' = outcome'
  intro htake
  cases htake with
  | @ok p p' hresult =>
    obtain ⟨answer, changed⟩ := p
    obtain ⟨answer', changed'⟩ := p'
    have hchanged : Option.Rel Agrees changed changed' := hresult.2
    cases hchanged with
    | none => exact hm
    | some hchanged => exact hchanged
  | error e => exact hm

/-- The representation after a run. -/
def afterAll (m : Representation) (steps : List Step) : Representation := steps.foldl after m

end Representation

end WebLinking
