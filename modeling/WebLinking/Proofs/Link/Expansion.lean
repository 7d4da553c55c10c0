import WebLinking.Link.Basic
import WebLinking.Proofs.Template.Composition

/-!
# Links to composed templates

A link keeps the text of its target only and reads it each time it is expanded. For a
composed template nothing is lost by that: the text is read, and what is read expands as
the template does.
-/

namespace WebLinking

namespace Link

/-- A text that is not empty and a sound relation make a link without attributes. -/
theorem of_text {t : Text} (ht : t ≠ []) {rel : RelationInput} {r : Relation}
    (hr : rel.check = .sound r) : Link.of (.text t) rel = .ok { href := t, rel := r } := by
  cases t with
  | nil => exact absurd rfl ht
  | cons c rest =>
    simp only [Link.of, checkParts, Option.map_some, Option.getD_some, hr]
    rfl

/-- What expanding a link makes of the expansion of its template. -/
def retarget (l : Link) : Except Fault Text → Except Fault Link
  | .ok [] => .error (.emptyHref (some []))
  | .ok href => .ok { l with href }
  | .error fault => .error fault

/-- A link whose target is read expands as the template does, but not to nothing. -/
theorem expand_eq_retarget {l : Link} {t : Template} (h : l.template = .ok t)
    (values arguments : Bindings) :
    l.expand values arguments = l.retarget (t.expand values arguments) := by
  unfold Link.expand
  rw [h]
  cases he : t.expand values arguments with
  | error fault => simp [bind, Except.bind, he, retarget]
  | ok href =>
    cases href with
    | nil => simp [bind, Except.bind, he, retarget, throw, throwThe, MonadExceptOf.throw]
    | cons c rest => simp [bind, Except.bind, he, retarget, pure, Except.pure]

/-- An expansion that is not empty is the new target. -/
theorem retarget_ok (l : Link) {href : Text} (h : href ≠ []) :
    l.retarget (.ok href) = .ok { l with href } := by
  cases href with
  | nil => exact absurd rfl h
  | cons c rest => rfl

/-- The target of a link to a readable template is read as what is left of the template. -/
theorem template_of_text {l : Link} {t : Template} (ht : t.IsReadable) (hhref : l.href = t.text) :
    l.template = .ok t.reread := by
  rw [template, hhref]
  exact ht.parse_text

/-- A link to a readable template expands as the template does, but not to nothing. -/
theorem expand_of_text {l : Link} {t : Template} (ht : t.IsReadable) (hhref : l.href = t.text)
    (values arguments : Bindings) :
    l.expand values arguments = l.retarget (t.expand values arguments) := by
  rw [expand_eq_retarget (template_of_text ht hhref), Template.expand, Template.expand,
    Template.expandWith_reread ht.uniform]

end Link

namespace Template

/-- The text of a composed template carries all of it: texts, names, expansions and links to it. -/
theorem Composed.text_faithful {t : Template} (ht : t.Composed) :
    ∃ u, parse t.text = .ok u ∧ u.text = t.text ∧ u.variableNames = t.variableNames ∧
      (∀ values arguments, u.expand values arguments = t.expand values arguments) ∧
      (t.text ≠ [] → ∀ rel r, RelationInput.check rel = .sound r →
        ∃ l, Link.of (.text t.text) rel = .ok l ∧ l.href = t.text ∧
          ∀ values arguments,
            l.expand values arguments = l.retarget (t.expand values arguments)) ∧
      ∀ t', Composed t' → t.sameAs t' = true →
        ∀ values arguments, t.expand values arguments = t'.expand values arguments := by
  have hread := ht.isReadable
  have hexpand : ∀ values arguments, t.reread.expand values arguments =
      t.expand values arguments := by
    intro values arguments
    rw [expand, expand, expandWith_reread hread.uniform]
  refine ⟨t.reread, hread.parse_text, t.text_reread, t.variableNames_reread, hexpand, ?_, ?_⟩
  · intro hne rel r hr
    refine ⟨_, Link.of_text hne hr, rfl, fun values arguments => ?_⟩
    have htemplate : Link.template { href := t.text, rel := r } = .ok t.reread := hread.parse_text
    rw [← hexpand]
    exact Link.expand_eq_retarget htemplate values arguments
  · intro t' ht' hsame values arguments
    have hread' := ht'.isReadable
    have htext : t.text = t'.text := by simpa only [sameAs, beq_iff_eq] using hsame
    have hreread : t.reread = t'.reread := by
      have hparse := hread.parse_text
      rw [htext, hread'.parse_text] at hparse
      exact (Except.ok.inj hparse).symm
    rw [← hexpand, hreread, expand, expand, expandWith_reread hread'.uniform]

/-- A query that a list parameter continues, before a path parameter that is read again as another
kind. -/
theorem Composed.text_faithful_kinds :
    ∃ t : Template, t.Composed ∧ t.text = "/a?b\x7b&q,r*\x7d\x7b;n:3\x7d".toList ∧
      (∃ u, parse t.text = .ok u ∧ u ≠ t ∧
        ∀ values arguments, u.expand values arguments = t.expand values arguments) ∧
      ∃ l, Link.of (.text t.text) (.made .self) = .ok l ∧ ∀ values arguments,
        l.expand values arguments = l.retarget (t.expand values arguments) := by
  let list : Variable := { name := "r".toList, kind := .list }
  let name : Variable := { name := "n".toList, kind := .name, maxLength := some 3 }
  have hlist : Variable.check [(.text "name".toList, .text "r".toList),
      (.text "type".toList, .text "list".toList)] = .ok list := rfl
  have hname : Variable.check [(.text "name".toList, .text "n".toList),
      (.text "type".toList, .text "name".toList), (.text "max_length".toList, .int 3)] =
        .ok name := rfl
  have hparsed : parse "/a?b\x7b&q\x7d".toList = .ok ⟨[.literal "/a?b".toList,
      .group ⟨.continuation, [{ name := "q".toList, kind := .requestParamContinued }]⟩]⟩ := rfl
  have hvs : ∀ v ∈ [list, name], v.Constructible := by
    intro v hv
    rcases List.mem_pair.mp hv with rfl | rfl
    · exact .checked hlist
    · exact .checked hname
  have ht := (Composed.parsed hparsed).withVariables hvs
  obtain ⟨u, hu, -, -, hexpand, hlink, -⟩ := text_faithful ht
  obtain ⟨l, hl, -, hretarget⟩ := hlink (List.cons_ne_nil _ _) (.made .self) .self rfl
  refine ⟨_, ht, rfl, ⟨u, hu, ?_, hexpand⟩, l, hl, hretarget⟩
  rintro rfl
  cases hu

end Template

end WebLinking
