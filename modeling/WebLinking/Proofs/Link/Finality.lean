import WebLinking.Proofs.Link.Expansion
import WebLinking.Proofs.Template.Delimiters

/-!
# Expansions are final

What a template expands to has no braces: literals and names have none by the grammar, and
in values they are encoded whatever the operator is. So it is read as a template without
expressions, which expands to itself, and a link that has been expanded stays as it is.
-/

namespace WebLinking

open Percent (IsEncoded)

/-- An encoded text has no braces. -/
theorem Percent.IsEncoded.brace_not_mem {u : Text} (h : IsEncoded isPlain u) {c : Char}
    (hc : c = '{' ∨ c = '}') : c ∉ u := by
  intro hmem
  have hchar := h.allowed_or_of_mem hmem
  rcases hc with rfl | rfl <;> revert hchar <;> decide

namespace Template

/-- What a readable template expands to has no braces. -/
theorem IsReadable.brace_not_mem_expandWith {t : Template} (ht : t.IsReadable)
    {lookup : Text → Value} {s : Text} (h : t.expandWith lookup = .ok s) {c : Char}
    (hc : c = '{' ∨ c = '}') : c ∉ s := by
  obtain ⟨texts, htexts, h⟩ := bind_eq_ok_iff.mp h
  cases h
  intro hmem
  obtain ⟨u, hu, hmem⟩ := List.mem_flatten.mp hmem
  obtain ⟨segment, hsegment, hexpand⟩ := exists_mem_of_mapM_eq_ok htexts hu
  cases segment with
  | literal u =>
    cases hexpand
    have hpart := ht.decomposes.wellFormed _ (List.mem_map_of_mem hsegment)
    cases hpart with
    | literal hopen hclose => rcases hc with rfl | rfl <;> contradiction
  | group g =>
    have hencoded := Group.isEncoded_expand (ht.uniform g hsegment)
      (fun v hv => (ht.wellFormed_of_mem hsegment hv).name) hexpand
    exact (hencoded.mono fun c hc => Operator.isPlain_of_passes hc).brace_not_mem hc hmem

/-- The template of a text that stands for itself. -/
def verbatim (s : Text) : Template := ⟨if s.isEmpty then [] else [.literal s]⟩

/-- A text without braces is read as one that stands for itself. -/
theorem parse_eq_verbatim {s : Text} (hopen : '{' ∉ s) (hclose : '}' ∉ s) :
    parse s = .ok (verbatim s) := by
  cases s with
  | nil => exact parse_eq_ok_iff.mpr ⟨[], .nil, rfl⟩
  | cons c rest =>
    have hparts := Decomposes.nil.snoc (.literal hopen hclose) (by simp) (by simp)
    exact parse_eq_ok_iff.mpr ⟨_, hparts, rfl⟩

/-- A text that stands for itself has no expressions. -/
theorem group_not_mem_verbatim (s : Text) (g : Group) :
    Segment.group g ∉ (verbatim s).segments := by
  unfold verbatim
  split <;> simp

/-- A text that stands for itself is no template with expressions. -/
theorem isTemplated_verbatim (s : Text) : (verbatim s).isTemplated = false := by
  rw [isTemplated, List.any_eq_false]
  intro segment hsegment
  cases segment with
  | literal t => exact Bool.false_ne_true
  | group g => exact absurd hsegment (group_not_mem_verbatim s g)

/-- A text that stands for itself expands to itself, whatever names stand for. -/
theorem expandWith_verbatim (s : Text) (lookup : Text → Value) :
    (verbatim s).expandWith lookup = .ok s := by
  cases s with
  | nil => rfl
  | cons c rest => exact expandWith_singleton lookup (.literal (c :: rest))

/-- A text that stands for itself expands to itself, whatever the values are. -/
theorem expand_verbatim (s : Text) (values arguments : Bindings) :
    (verbatim s).expand values arguments = .ok s :=
  expandWith_verbatim s _

end Template

namespace Link

/-- A link is expanded to one whose target is the expansion of a template. -/
theorem exists_expand_of_expand {l m : Link} {values arguments : Bindings}
    (h : l.expand values arguments = .ok m) :
    ∃ t s, Template.parse l.href = .ok t ∧ t.expand values arguments = .ok s ∧ s ≠ [] ∧
      m = { l with href := s } := by
  obtain ⟨t, ht, h⟩ := bind_eq_ok_iff.mp h
  obtain ⟨s, hs, h⟩ := bind_eq_ok_iff.mp h
  split at h
  · cases h
  · rename_i hempty
    cases h
    exact ⟨t, s, ht, hs, mt List.isEmpty_iff.mpr hempty, rfl⟩

/-- What a pattern expands to has no braces and expands to itself, and so does the link to it. -/
theorem expand_final :
    (∀ (p : Text) (t : Template) (values arguments : Bindings) (s : Text),
      Template.parse p = .ok t → t.expand values arguments = .ok s →
        '{' ∉ s ∧ '}' ∉ s ∧ ∃ u, Template.parse s = .ok u ∧
          (∀ g, Segment.group g ∉ u.segments) ∧
          ∀ values' arguments', u.expand values' arguments' = .ok s) ∧
    ∀ (l m : Link) (values arguments : Bindings), l.expand values arguments = .ok m →
      m = { l with href := m.href } ∧ m.isTemplated = .ok false ∧
        ∀ values' arguments', m.expand values' arguments' = .ok m := by
  have hbrace : ∀ {p : Text} {t : Template} {values arguments : Bindings} {s : Text},
      Template.parse p = .ok t → t.expand values arguments = .ok s → '{' ∉ s ∧ '}' ∉ s := by
    intro p t values arguments s hparse hexpand
    have hread := Template.IsReadable.of_parse hparse
    exact ⟨hread.brace_not_mem_expandWith hexpand (Or.inl rfl),
      hread.brace_not_mem_expandWith hexpand (Or.inr rfl)⟩
  refine ⟨fun p t values arguments s hparse hexpand => ?_, fun l m values arguments h => ?_⟩
  · obtain ⟨hopen, hclose⟩ := hbrace hparse hexpand
    exact ⟨hopen, hclose, _, Template.parse_eq_verbatim hopen hclose,
      Template.group_not_mem_verbatim s, Template.expand_verbatim s⟩
  · obtain ⟨t, s, hparse, hexpand, hne, rfl⟩ := exists_expand_of_expand h
    obtain ⟨hopen, hclose⟩ := hbrace hparse hexpand
    have htemplate : template { l with href := s } = .ok (Template.verbatim s) :=
      Template.parse_eq_verbatim hopen hclose
    refine ⟨rfl, ?_, fun values' arguments' => ?_⟩
    · rw [isTemplated, htemplate]
      exact congrArg Except.ok (Template.isTemplated_verbatim s)
    · rw [expand_eq_retarget htemplate, Template.expand_verbatim]
      cases s with
      | nil => exact absurd rfl hne
      | cons c rest => rfl

/-- Braces in a value that reserved characters pass unencoded are encoded all the same. -/
theorem expand_final_braces :
    ∃ (t u : Template) (m : Link),
      Template.parse "/a\x7b+b\x7d".toList = .ok t ∧
      t.expand [("b".toList, .text "\x7bc\x7d/".toList)] [] = .ok "/a%7Bc%7D/".toList ∧
      Template.parse "/a%7Bc%7D/".toList = .ok u ∧ (∀ g, Segment.group g ∉ u.segments) ∧
      Link.expand { href := "/a\x7b+b\x7d".toList, rel := Relation.self }
        [("b".toList, .text "\x7bc\x7d/".toList)] [] = .ok m ∧
      m.href = "/a%7Bc%7D/".toList ∧ m.isTemplated = .ok false ∧
      m.expand [("c".toList, .int 1)] [] = .ok m := by
  let t : Template := ⟨[.literal "/a".toList,
    .group ⟨.reserved, [{ name := "b".toList, kind := .reserved }]⟩]⟩
  let values : Bindings := [("b".toList, .text "\x7bc\x7d/".toList)]
  let l : Link := { href := "/a\x7b+b\x7d".toList, rel := Relation.self }
  let m : Link := { l with href := "/a%7Bc%7D/".toList }
  have hparse : Template.parse "/a\x7b+b\x7d".toList = .ok t := rfl
  have hexpand : t.expand values [] = .ok "/a%7Bc%7D/".toList := by decide
  have htemplate : l.template = .ok t := hparse
  have hlink : l.expand values [] = .ok m := by
    rw [expand_eq_retarget htemplate, hexpand]
    rfl
  obtain ⟨-, -, u, hu, hgroups, -⟩ := expand_final.1 _ t values [] _ hparse hexpand
  obtain ⟨-, htemplated, hagain⟩ := expand_final.2 l m values [] hlink
  exact ⟨t, u, m, hparse, hexpand, hu, hgroups, hlink, rfl, htemplated, hagain _ _⟩

end Link

end WebLinking
