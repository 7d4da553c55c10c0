import WebLinking.Proofs.Template.Variable
import WebLinking.Template.Composition
import WebLinking.Template.Expansion

/-!
# Composed templates and their text

A template that was read and then given variables still has the parts of its text: each
addition appends an expression or makes the last one longer. Reading the text again may
give a variable another kind, but one with the same operator and the same way of
writing, and on these alone depends what a template expands to.
-/

namespace WebLinking

/-- The names that a part writes. -/
def Part.names : Part → List Text
  | .literal _ => []
  | .expression _ specs => specs.map Varspec.name

/-- A segment and the one that its part stands for expand equally. -/
theorem Segment.expand_segment_part {s : Segment} (hs : ∀ g, s = .group g → g.IsUniform)
    (lookup : Text → Value) : s.part.segment.expand lookup = s.expand lookup := by
  cases s with
  | literal t => rfl
  | group g =>
    have hrender : ∀ v ∈ g.vars,
        (v.spec.toVariable g.operator).render (lookup v.name) = v.render (lookup v.name) := by
      intro v hv
      have hoperator : (v.spec.toVariable g.operator).operator = v.operator :=
        (v.spec.toVariable_operator g.operator).trans (hs g rfl v hv).symm
      rw [Variable.render_congr (v.spec.spec_toVariable g.operator) (.of_eq hoperator)]
    have hmapM : ((g.vars.map Variable.spec).map fun spec => spec.toVariable g.operator).mapM
          (fun v => v.render (lookup v.name)) =
        g.vars.mapM fun v => v.render (lookup v.name) := by
      rw [List.map_map, List.mapM_map]
      exact mapM_congr hrender
    simp only [Segment.part, Part.segment, Segment.expand, Group.expand, hmapM]

namespace Template

/-- The template that the parts of a template stand for. -/
def reread (t : Template) : Template := ⟨t.parts.map Part.segment⟩

/-- The parts of a template are all that is left of it when it is read again. -/
@[simp] theorem parts_reread (t : Template) : t.reread.parts = t.parts := parts_mk t.parts

/-- Reading again keeps the text. -/
theorem text_reread (t : Template) : t.reread.text = t.text := by
  rw [text_eq, text_eq, parts_reread]

/-- The variables of a template go by the names that its parts write. -/
theorem variableNames_eq (t : Template) :
    t.variableNames = OrderedSet.ofList (· == ·) (t.parts.flatMap Part.names) := by
  have hnames : ∀ s : Segment, s.vars.map Variable.name = s.part.names := by
    intro s
    cases s with
    | literal t => rfl
    | group g => simp [Segment.vars, Segment.part, Part.names, Function.comp_def, Variable.spec]
  have hset : (OrderedSet.ofList sameName (t.segments.flatMap Segment.vars)).map Variable.name =
      OrderedSet.ofList (· == ·) ((t.segments.flatMap Segment.vars).map Variable.name) :=
    OrderedSet.map_ofList (fun v w => rfl) _
  rw [variableNames, vars, hset, parts, List.map_flatMap, List.flatMap_map, funext hnames]

/-- Reading again keeps the names. -/
theorem variableNames_reread (t : Template) : t.reread.variableNames = t.variableNames := by
  rw [variableNames_eq, variableNames_eq, parts_reread]

/-- Reading again keeps what a template expands to. -/
theorem expandWith_reread {t : Template} (ht : t.IsUniform) :
    t.reread.expandWith = t.expandWith := by
  funext lookup
  have hsegments : (t.segments.map fun s => s.part.segment).mapM (fun s => s.expand lookup) =
      t.segments.mapM fun s => s.expand lookup := by
    rw [List.mapM_map]
    refine mapM_congr fun s hs => Segment.expand_segment_part ?_ lookup
    rintro g rfl
    exact ht g hs
  simp only [expandWith, reread, parts, List.map_map, Function.comp_def, hsegments]

/-- The last group of a template stands at its end. -/
theorem lastGroup?_eq_some_iff {t : Template} {g : Group} :
    t.lastGroup? = some g ↔ ∃ segments, t.segments = segments ++ [.group g] := by
  rw [← List.getLast?_eq_some_iff, lastGroup?]
  split
  · rename_i h
    simp [h]
  · rename_i h
    constructor
    · intro hnone
      cases hnone
    · exact fun hlast => absurd hlast (h g)

/-- The parts of a template decompose its text and its groups are uniform. -/
structure IsReadable (t : Template) : Prop where
  /-- The parts are the ones that reading the text gives. -/
  decomposes : Decomposes t.parts t.text
  /-- The variables of each group have its operator. -/
  uniform : t.IsUniform

namespace IsReadable

variable {t : Template} {segments more : List Segment} {g : Group} {v : Variable}

/-- The text of a readable template is read, and as the template that its parts stand for. -/
theorem parse_text (ht : t.IsReadable) : parse t.text = .ok t.reread :=
  parse_eq_ok_iff.mpr ⟨t.parts, ht.decomposes, rfl⟩

/-- Parsing gives readable templates. -/
theorem of_parse {p : Text} (h : parse p = .ok t) : t.IsReadable := by
  obtain ⟨parts, hparts, rfl⟩ := parse_eq_ok_iff.mp h
  refine ⟨?_, isUniform_mk parts⟩
  rw [parts_mk, text_eq, parts_mk, hparts.text]
  exact hparts

private theorem of_append (h : IsReadable ⟨segments ++ more⟩) : IsReadable ⟨segments⟩ := by
  obtain ⟨hparts, huniform⟩ := h
  rw [text_eq] at hparts
  simp only [parts, List.map_append] at hparts
  refine ⟨⟨⟨(text_eq _).symm, ?_⟩, ?_, ?_⟩, ?_⟩
  · exact fun part hpart => hparts.wellFormed part (List.mem_append_left _ hpart)
  · exact fun hempty => hparts.nonempty (List.mem_append_left _ hempty)
  · exact hparts.maximal.left_of_append
  · exact fun g hg => huniform g (List.mem_append_left _ hg)

private theorem append_group (h : IsReadable ⟨segments⟩) (hne : g.vars ≠ [])
    (hvars : ∀ v ∈ g.vars, v.spec.IsWellFormed) (hg : g.IsUniform) :
    IsReadable ⟨segments ++ [.group g]⟩ := by
  have hpart : (Segment.group g).part.IsWellFormed := by
    refine .expression (by simpa using hne) ?_
    intro spec hspec
    obtain ⟨v, hv, rfl⟩ := List.mem_map.mp hspec
    exact hvars v hv
  have hgrown := h.decomposes.snoc hpart (by simp [Segment.part])
    fun last _ => by simp [Segment.part, Part.isLiteral]
  refine ⟨?_, ?_⟩
  · rw [text_eq] at hgrown ⊢
    simpa [parts] using hgrown
  · intro g' hg'
    rcases List.mem_append.mp hg' with hold | hnew
    · exact h.uniform g' hold
    · cases List.mem_singleton.mp hnew
      exact hg

/-- The variables of a readable template are written as the grammar writes names. -/
theorem wellFormed_of_mem (h : t.IsReadable) (hg : Segment.group g ∈ t.segments) (hv : v ∈ g.vars) :
    v.spec.IsWellFormed := by
  have hpart := h.decomposes.wellFormed _ (List.mem_map_of_mem hg)
  cases hpart with
  | expression _ hspecs => exact hspecs v.spec (List.mem_map_of_mem hv)

private theorem group_of_append (h : IsReadable ⟨segments ++ [.group g]⟩) :
    (∀ v ∈ g.vars, v.spec.IsWellFormed) ∧ g.IsUniform := by
  have hmem : Segment.group g ∈ segments ++ [.group g] := by simp
  exact ⟨fun v hv => h.wellFormed_of_mem hmem hv, h.uniform g hmem⟩

/-- A well-formed variable at the end, alone or with others, keeps a template readable. -/
theorem place (ht : t.IsReadable) (hv : v.spec.IsWellFormed) : (t.place v).IsReadable := by
  have halone : IsReadable ⟨t.segments ++ [.group ⟨v.operator, [v]⟩]⟩ :=
    append_group ht (by simp) (by simpa using hv) (by simp [Group.IsUniform])
  unfold Template.place
  split
  · rename_i g hlast
    split
    · rename_i hshare
      simp only [Bool.and_eq_true, decide_eq_true_eq] at hshare
      obtain ⟨before, hsegments⟩ := lastGroup?_eq_some_iff.mp hlast
      have hold : IsReadable ⟨before ++ [.group g]⟩ := hsegments ▸ ht
      obtain ⟨hvars, hg⟩ := group_of_append hold
      rw [hsegments, List.dropLast_concat]
      refine append_group (of_append hold) (by simp) ?_ ?_
      · intro w hw
        rcases List.mem_append.mp hw with hw | hw
        · exact hvars w hw
        · rwa [List.mem_singleton.mp hw]
      · intro w hw
        rcases List.mem_append.mp hw with hw | hw
        · exact hg w hw
        · rw [List.mem_singleton.mp hw]
          exact hshare.1.symm
    · exact halone
  · exact halone

/-- Adding a well-formed variable keeps a template readable. -/
theorem withVariable (ht : t.IsReadable) (hv : v.spec.IsWellFormed) :
    (t.withVariable v).IsReadable := by
  unfold Template.withVariable
  split
  · exact ht
  · refine ht.place ?_
    unfold adapt
    split
    · rwa [Variable.spec_asContinued]
    · exact hv

/-- Adding well-formed variables keeps a template readable. -/
theorem withVariables {vs : List Variable} (ht : t.IsReadable)
    (hvs : ∀ v ∈ vs, v.spec.IsWellFormed) : (t.withVariables vs).IsReadable := by
  induction vs generalizing t with
  | nil => exact ht
  | cons v vs ih =>
    obtain ⟨hv, hvs⟩ := List.forall_mem_cons.mp hvs
    exact ih (ht.withVariable hv) hvs

end IsReadable

/-- The templates that come from a pattern by adding variables. -/
inductive Composed : Template → Prop
  /-- From a pattern. -/
  | parsed {p : Text} {t : Template} (h : parse p = .ok t) : Composed t
  /-- With one more variable. -/
  | withVariable {t : Template} {v : Variable} (ht : Composed t) (hv : v.Constructible) :
      Composed (t.withVariable v)
  /-- With several more variables. -/
  | withVariables {t : Template} {vs : List Variable} (ht : Composed t)
      (hvs : ∀ v ∈ vs, v.Constructible) : Composed (t.withVariables vs)

/-- Every composed template is readable. -/
theorem Composed.isReadable {t : Template} (ht : t.Composed) : t.IsReadable := by
  induction ht with
  | parsed h => exact .of_parse h
  | withVariable _ hv ih => exact ih.withVariable hv.wellFormed
  | withVariables _ hvs ih => exact ih.withVariables fun v hv => (hvs v hv).wellFormed

end Template

end WebLinking
