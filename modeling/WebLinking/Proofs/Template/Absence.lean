import WebLinking.Proofs.OrderedSet
import WebLinking.Proofs.Template.Expansion
import WebLinking.Template.Parsing

/-!
# Absent values and members

A name without a value, the absent value and a composite value of which nothing is left once
its absent members are dropped are one and the same to a template, and so are values that
differ in absent members only. What a template expands to depends on nothing else than this of
its own names.
-/

namespace WebLinking

namespace Value

mutual

/-- A value without its absent members and without the entries of absent values, at every
level. -/
def dropNulls : Value → Value
  | .list items => .list (dropNullItems items)
  | .tuple items => .tuple (dropNullItems items)
  | .mapping entries => .mapping (dropNullEntries entries)
  | value => value

/-- The members that are not absent. -/
def dropNullItems : List Value → List Value
  | [] => []
  | item :: items =>
    if item.isNull then dropNullItems items else item.dropNulls :: dropNullItems items

/-- The entries whose value is not absent. -/
def dropNullEntries : List (Value × Value) → List (Value × Value)
  | [] => []
  | (key, value) :: entries =>
    if value.isNull then dropNullEntries entries
    else (key.dropNulls, value.dropNulls) :: dropNullEntries entries

end

/-- A value without absent members, where one that is left empty counts as absent itself. -/
def settled (value : Value) : Value :=
  match value.dropNulls with
  | .list [] | .tuple [] | .mapping [] => .null
  | rest => rest

/-- Dropping absent members makes nothing absent that was there. -/
@[simp] theorem isNull_dropNulls (value : Value) : value.dropNulls.isNull = value.isNull := by
  cases value <;> rfl

end Value

namespace Variable

variable (v : Variable)

/-- A member has the same text without the absent members of its own. -/
@[simp] theorem memberText_dropNulls (value : Value) :
    v.memberText value.dropNulls = v.memberText value := by
  cases value <;> rfl

/-- Absent members do not count among the texts of a list. -/
theorem itemTexts_dropNullItems (items : List Value) :
    v.itemTexts (Value.dropNullItems items) = v.itemTexts items := by
  induction items with
  | nil => rfl
  | cons item items ih =>
    unfold itemTexts at ih ⊢
    cases hnull : item.isNull <;> simp [Value.dropNullItems, hnull, ih]

/-- Entries with an absent value do not count among the texts of a mapping. -/
theorem entryTexts_dropNullEntries (entries : List (Value × Value)) :
    v.entryTexts (Value.dropNullEntries entries) = v.entryTexts entries := by
  induction entries with
  | nil => rfl
  | cons entry entries ih =>
    unfold entryTexts at ih ⊢
    cases hnull : entry.2.isNull <;> simp [Value.dropNullEntries, hnull, ih, pairTexts]

/-- A value renders as it does without absent members. -/
theorem render_dropNulls (value : Value) : v.render value.dropNulls = v.render value := by
  cases value with
  | list items =>
    rw [Value.dropNulls, render, itemTexts_dropNullItems]
    rfl
  | tuple items =>
    rw [Value.dropNulls, render, itemTexts_dropNullItems]
    rfl
  | mapping entries =>
    rw [Value.dropNulls, render, entryTexts_dropNullEntries]
    rfl
  | _ => rfl

/-- A value renders as what it settles to. -/
theorem render_settled (value : Value) : v.render value.settled = v.render value := by
  rw [← render_dropNulls v value, Value.settled]
  split
  · next h => rw [h]; rfl
  · next h => rw [h]; rfl
  · next h => rw [h]; rfl
  · rfl

end Variable

variable {lookup lookup' : Text → Value}

/-- What an expression expands to depends on what its variables render. -/
theorem Group.expand_congr {g : Group}
    (h : ∀ v ∈ g.vars, v.render (lookup v.name) = v.render (lookup' v.name)) :
    g.expand lookup = g.expand lookup' := by
  unfold expand
  rw [mapM_congr h]

namespace Template

variable {t : Template}

/-- What a template expands to depends on what its expressions expand to. -/
theorem expandWith_congr
    (h : ∀ g, Segment.group g ∈ t.segments → g.expand lookup = g.expand lookup') :
    t.expandWith lookup = t.expandWith lookup' := by
  have hsegments : ∀ s ∈ t.segments, s.expand lookup = s.expand lookup' := by
    intro s hs
    cases s with
    | literal l => rfl
    | group g => exact h g hs
  unfold expandWith
  rw [mapM_congr hsegments]

/-- The variables of a template's expressions go by its names. -/
theorem name_mem_variableNames {g : Group} (hg : Segment.group g ∈ t.segments) {v : Variable}
    (hv : v ∈ g.vars) : v.name ∈ t.variableNames := by
  have hmem : v ∈ t.segments.flatMap Segment.vars := List.mem_flatMap.mpr ⟨.group g, hg, hv⟩
  have hrefl : ∀ v : Variable, sameName v v = true := fun v => beq_self_eq_true v.name
  obtain ⟨w, hw, hname⟩ := OrderedSet.exists_same_of_mem hrefl hmem
  exact List.mem_map.mpr ⟨w, hw, eq_of_beq hname⟩

/-- Two calls end alike if the values that count for each name of the template settle to the
same. -/
theorem expand_eq_of_settled {values values' arguments arguments' : Bindings}
    (h : ∀ name ∈ t.variableNames, (Bindings.effective values arguments name).settled =
      (Bindings.effective values' arguments' name).settled) :
    t.expand values arguments = t.expand values' arguments' := by
  refine expandWith_congr fun g hg => Group.expand_congr fun v hv => ?_
  rw [← v.render_settled, h v.name (name_mem_variableNames hg hv), v.render_settled]

/-- An emptied list under a prefix length, a value that is taken away, absent members and an unknown
name. -/
theorem expand_eq_of_settled_forms :
    ∃ (t : Template) (values arguments values' : Bindings),
      parse "\x7bx:3\x7d\x7b?y*,z,w\x7d".toList = .ok t ∧
      values = [("x".toList, .list [.null]), ("y".toList, .list [.int 1, .null]),
        ("z".toList, .text "a".toList)] ∧
      arguments = [("z".toList, .mapping [(.tuple [], .null)])] ∧
      values' = [("y".toList, .list [.null, .int 1]), ("v".toList, .list [.list []])] ∧
      (∀ name ∈ t.variableNames, (Bindings.effective values arguments name).settled =
        (Bindings.effective values' [] name).settled) ∧
      t.expand values arguments = .ok "?y=1".toList ∧ t.expand values' [] = .ok "?y=1".toList := by
  obtain ⟨t, ht⟩ : ∃ t, parse "\x7bx:3\x7d\x7b?y*,z,w\x7d".toList = .ok t := ⟨_, rfl⟩
  let values : Bindings := [("x".toList, .list [.null]), ("y".toList, .list [.int 1, .null]),
    ("z".toList, .text "a".toList)]
  let arguments : Bindings := [("z".toList, .mapping [(.tuple [], .null)])]
  let values' : Bindings := [("y".toList, .list [.null, .int 1]), ("v".toList, .list [.list []])]
  have hnames : t.variableNames = [['x'], ['y'], ['z'], ['w']] := by
    cases ht
    rfl
  have hsettled : ∀ name ∈ t.variableNames, (Bindings.effective values arguments name).settled =
      (Bindings.effective values' [] name).settled := by
    rw [hnames]
    simp only [List.forall_mem_cons]
    exact ⟨rfl, rfl, rfl, rfl, by simp⟩
  have hexpand : t.expand values' [] = .ok "?y=1".toList := by
    cases ht
    rfl
  exact ⟨t, values, arguments, values', ht, rfl, rfl, rfl, hsettled,
    (expand_eq_of_settled hsettled).trans hexpand, hexpand⟩

end Template

end WebLinking
