import WebLinking.Proofs.Template.Rendering
import WebLinking.Proofs.Text.Splitting
import WebLinking.Template.Expansion

/-!
# Expansions side by side

An expression renders its variables from left to right and joins what is defined; a
template expands its segments from left to right. A row of variables or of segments may
therefore be cut in two: the second part adds to what the first one gives, and it is the
first part that fails if both do.
-/

namespace WebLinking

/-- Joins what the variables of an expression render, after the mark of the operator. -/
def Operator.joined (operator : Operator) (parts : List Text) : Text :=
  if parts.isEmpty then [] else operator.first ++ Text.joinWith [operator.separator] parts

/-- What the defined ones of some variables render. -/
def Variable.renderings (vs : List Variable) (lookup : Text → Value) :
    Except Fault (List Text) := do
  let rendered ← vs.mapM fun v => v.render (lookup v.name)
  return rendered.filterMap id

/-- An expression joins what its variables render. -/
theorem Group.expand_eq (g : Group) (lookup : Text → Value) :
    g.expand lookup = g.operator.joined <$> Variable.renderings g.vars lookup := by
  unfold Group.expand Variable.renderings
  cases g.vars.mapM fun v => v.render (lookup v.name) with
  | error fault => rfl
  | ok rendered =>
    change (if (rendered.filterMap id).isEmpty = true then _ else _) = Except.ok _
    unfold Operator.joined
    split <;> rfl

/-- The variables of a row that is cut in two render as those of the first part and then
those of the second. -/
theorem Variable.renderings_append (vs ws : List Variable) (lookup : Text → Value) :
    renderings (vs ++ ws) lookup = do
      let left ← renderings vs lookup
      let right ← renderings ws lookup
      return left ++ right := by
  simp only [renderings, List.mapM_append, bind_assoc, pure_bind, List.filterMap_append]

/-- A single variable renders one part or none. -/
theorem Variable.renderings_singleton (v : Variable) (lookup : Text → Value) :
    renderings [v] lookup = Option.toList <$> v.render (lookup v.name) := by
  unfold renderings
  cases h : v.render (lookup v.name) with
  | error fault => simp [h]
  | ok r => cases r <;> simp [h]

/-- A variable on its own puts the mark of its operator before what it renders. -/
theorem Variable.expand_eq (v : Variable) (value : Value) :
    v.expand value = do
      let rendered ← v.render value
      return rendered.elim [] (v.operator.first ++ ·) := by
  unfold Variable.expand
  cases v.render value with
  | error fault => rfl
  | ok rendered => cases rendered <;> rfl

/-- What is rendered is what the variables write of the values that are defined. -/
theorem Variable.eq_of_renderings {vs : List Variable} {lookup : Text → Value}
    {parts : List Text} (h : renderings vs lookup = .ok parts) :
    parts = vs.filterMap fun v => (lookup v.name).datum?.map v.write := by
  obtain ⟨rendered, hrendered, h⟩ := bind_eq_ok_iff.mp h
  cases h
  rw [← map_eq_of_mapM_eq_ok hrendered fun v r => map_write_of_render, List.filterMap_map]
  rfl

/-- If all variables render, each of them does. -/
theorem Variable.exists_render_of_renderings {vs : List Variable} {lookup : Text → Value}
    {parts : List Text} (h : renderings vs lookup = .ok parts) {v : Variable} (hv : v ∈ vs) :
    ∃ o, v.render (lookup v.name) = .ok o := by
  obtain ⟨rendered, hrendered, -⟩ := bind_eq_ok_iff.mp h
  obtain ⟨o, -, ho⟩ := exists_result_of_mapM_eq_ok hrendered hv
  exact ⟨o, ho⟩

/-- What fails is the rendering of one of the variables. -/
theorem Variable.exists_mem_of_renderings_eq_error {vs : List Variable} {lookup : Text → Value}
    {fault : Fault} (h : renderings vs lookup = .error fault) :
    ∃ v ∈ vs, v.render (lookup v.name) = .error fault :=
  exists_mem_of_mapM_eq_error (bind_pure_eq_error_iff.mp h)

namespace Operator

variable {operator : Operator} {parts more : List Text}

/-- What is joined to parts that are there follows them with a separator before each. -/
theorem joined_append (hne : parts ≠ []) :
    operator.joined (parts ++ more) =
      operator.joined parts ++ more.flatMap ([operator.separator] ++ ·) := by
  obtain ⟨part, parts, rfl⟩ := List.exists_cons_of_ne_nil hne
  simp only [joined, List.cons_append, List.isEmpty_cons, Bool.false_eq_true, ite_false,
    Text.joinWith_cons, List.flatMap_append, List.append_assoc]

/-- An operator whose groups can be merged has a mark of its own. -/
theorem first_ne_nil_of_isMergeable (h : operator.isMergeable = true) : operator.first ≠ [] := by
  cases operator <;> first | exact List.cons_ne_nil _ _ | cases h

/-- Where the operator has a mark, only the absence of parts is joined to nothing. -/
theorem joined_eq_nil_iff (hfirst : operator.first ≠ []) :
    operator.joined parts = [] ↔ parts = [] := by
  cases parts <;> simp [joined, hfirst]

end Operator

namespace Group

variable {g : Group} {v : Variable} {lookup : Text → Value} {lead : Text}

/-- A variable that makes an expression of its own expands as it does on its own. -/
theorem expand_singleton (v : Variable) (lookup : Text → Value) :
    Group.expand ⟨v.operator, [v]⟩ lookup = v.expand (lookup v.name) := by
  rw [expand_eq, Variable.renderings_singleton, Variable.expand_eq]
  cases v.render (lookup v.name) with
  | error fault => rfl
  | ok rendered => cases rendered <;> simp [Operator.joined, Text.joinWith_cons]

/-- A variable at the end of an expression adds its rendering after the mark or a separator. -/
theorem expand_snoc (hmerge : g.operator.isMergeable = true)
    (hsilent : g.expand lookup = .ok [] → lead = g.operator.first)
    (hbegun : g.expand lookup ≠ .ok [] → lead = [g.operator.separator]) :
    Group.expand { g with vars := g.vars ++ [v] } lookup = do
      let before ← g.expand lookup
      let rendered ← v.render (lookup v.name)
      return before ++ rendered.elim [] (lead ++ ·) := by
  simp only [expand_eq, Variable.renderings_append, Variable.renderings_singleton] at *
  cases hparts : Variable.renderings g.vars lookup with
  | error fault => rfl
  | ok parts =>
    cases hv : v.render (lookup v.name) with
    | error fault => rfl
    | ok rendered =>
      rw [hparts] at hsilent hbegun
      refine congrArg Except.ok ?_
      by_cases hempty : parts = []
      · subst hempty
        have hlead : lead = g.operator.first := hsilent rfl
        cases rendered <;> simp [Operator.joined, Text.joinWith_cons, hlead]
      · have hne : g.operator.joined parts ≠ [] :=
          mt (Operator.joined_eq_nil_iff (Operator.first_ne_nil_of_isMergeable hmerge)).mp hempty
        have hlead : lead = [g.operator.separator] :=
          hbegun fun he => hne (Except.ok.inj he)
        rw [Operator.joined_append hempty]
        cases rendered <;> simp [hlead]

end Group

namespace Template

variable (segments more : List Segment) (lookup : Text → Value)

/-- The segments of a row that is cut in two expand as those of the first part and then
those of the second. -/
theorem expandWith_append :
    expandWith ⟨segments ++ more⟩ lookup = do
      let left ← expandWith ⟨segments⟩ lookup
      let right ← expandWith ⟨more⟩ lookup
      return left ++ right := by
  simp only [expandWith, List.mapM_append, bind_assoc, pure_bind, List.flatten_append]

/-- A single segment expands as it does in a template. -/
theorem expandWith_singleton (s : Segment) : expandWith ⟨[s]⟩ lookup = s.expand lookup := by
  simp [expandWith]

/-- The first segment expands before the others do. -/
theorem expandWith_cons (s : Segment) :
    expandWith ⟨s :: more⟩ lookup = do
      let left ← s.expand lookup
      let right ← expandWith ⟨more⟩ lookup
      return left ++ right := by
  rw [← List.singleton_append, expandWith_append, expandWith_singleton]

/-- What a segment expands to is found in the expansion of its template. -/
theorem exists_expand_of_mem {t : Template} {s : Segment} (hs : s ∈ t.segments)
    {lookup : Text → Value} {whole : Text} (h : t.expandWith lookup = .ok whole) :
    ∃ u, s.expand lookup = .ok u ∧ u <:+: whole := by
  obtain ⟨segments, more, hsegments⟩ := List.append_of_mem hs
  have ht : t = ⟨segments ++ ([s] ++ more)⟩ := by
    rw [List.singleton_append, ← hsegments]
  rw [ht, expandWith_append, expandWith_append, expandWith_singleton] at h
  obtain ⟨before, -, h⟩ := bind_eq_ok_iff.mp h
  obtain ⟨rest, hrest, h⟩ := bind_eq_ok_iff.mp h
  obtain ⟨u, hu, hrest⟩ := bind_eq_ok_iff.mp hrest
  obtain ⟨after, -, hrest⟩ := bind_eq_ok_iff.mp hrest
  cases hrest
  cases h
  exact ⟨u, hu, before, after, List.append_assoc before u after⟩

end Template

end WebLinking
