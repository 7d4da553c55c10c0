import WebLinking.Proofs.Percent
import WebLinking.Proofs.Template.Absence
import WebLinking.Proofs.Template.Addition

/-!
# Expansion with numbers

Where every name stands for a natural number or for nothing, only a number of too many digits
is an obstacle to expanding a template. What is expanded is not empty as soon as one variable
has a number, because a number has digits and no prefix length cuts off all of them.
-/

namespace WebLinking

namespace Variable

variable {v : Variable} {n : ℕ}

/-- A writable number is rendered by what the variable writes of its digits. -/
theorem render_nat (hn : Decimal.IsWritable n) :
    v.render (.nat n) = .ok (some (v.writeScalar (Decimal.ofNat n))) := by
  change (do return some (v.writeScalar (← writable (Decimal.written? n)))) = _
  rw [hn.written?]
  rfl

/-- A number of too many digits is an obstacle. -/
theorem render_nat_eq_error (hn : ¬Decimal.IsWritable n) :
    v.render (.nat n) = .error .longInteger := by
  change (do return some (v.writeScalar (← writable (Decimal.written? n)))) = _
  rw [Decimal.written?_eq_none hn]
  rfl

/-- A well-formed variable writes something of a text that is not empty. -/
theorem writeScalar_ne_nil (hv : v.spec.IsWellFormed) {t : Text} (ht : t ≠ []) :
    v.writeScalar t ≠ [] := by
  have hencode : ∀ {u : Text}, u ≠ [] → v.encode u ≠ [] :=
    fun hu => mt Operator.encode_eq_nil_iff.mp hu
  have hnamed : ∀ {u : Text}, u ≠ [] → v.named u ≠ [] := by
    intro u hu
    unfold named
    split
    · exact hu
    · split
      · rename_i hempty
        exact absurd (List.isEmpty_iff.mp hempty) hu
      · simp
  unfold writeScalar
  refine hnamed (hencode ?_)
  cases hmaxLength : v.maxLength with
  | none => exact ht
  | some k =>
    have hk := (hv.bounds k hmaxLength).1
    simpa [List.take_eq_nil_iff, ht] using Nat.ne_of_gt hk

end Variable

/-- What is joined is not empty if one of the parts is not. -/
theorem Operator.joined_ne_nil {operator : Operator} {parts : List Text} {part : Text}
    (hmem : part ∈ parts) (hne : part ≠ []) : operator.joined parts ≠ [] := by
  obtain ⟨first, rest, rfl⟩ := List.exists_cons_of_ne_nil (List.ne_nil_of_mem hmem)
  intro hnil
  simp only [joined, List.isEmpty_cons, Bool.false_eq_true, if_false, Text.joinWith_cons,
    List.append_eq_nil_iff, List.flatMap_eq_nil_iff] at hnil
  obtain ⟨-, hfirst, hrest⟩ := hnil
  rcases List.mem_cons.mp hmem with rfl | hmem
  · exact hne hfirst
  · exact hne (hrest part hmem).2

/-- What a variable of an expression renders is there once the expression has been expanded. -/
theorem Group.exists_render {g : Group} {v : Variable} (hv : v ∈ g.vars) {lookup : Text → Value}
    {u : Text} (h : g.expand lookup = .ok u) :
    ∃ r, v.render (lookup v.name) = .ok r ∧ ∀ part, r = some part → part ≠ [] → u ≠ [] := by
  rw [Group.expand_eq] at h
  cases hparts : Variable.renderings g.vars lookup with
  | error fault =>
    rw [hparts] at h
    cases h
  | ok parts =>
    rw [hparts] at h
    cases h
    obtain ⟨rendered, hrendered, hfilter⟩ := bind_eq_ok_iff.mp hparts
    cases hfilter
    obtain ⟨r, hmem, hr⟩ := exists_result_of_mapM_eq_ok hrendered hv
    refine ⟨r, hr, ?_⟩
    rintro part rfl hpart
    exact Operator.joined_ne_nil (List.mem_filterMap.mpr ⟨some part, hmem, rfl⟩) hpart

namespace Template

variable {t : Template} {v : Variable} {name : Text}

/-- A template has a variable of a name in one of its expressions. -/
def Uses (t : Template) (name : Text) : Prop :=
  ∃ g, Segment.group g ∈ t.segments ∧ ∃ v ∈ g.vars, v.name = name

/-- A template has a variable of each name that it uses, and of no other. -/
theorem hasVariable_iff : t.hasVariable name = true ↔ t.Uses name := by
  constructor
  · intro h
    obtain ⟨v, hv⟩ := Option.isSome_iff_exists.mp h
    have hname : v.name = name := by simpa using List.find?_some hv
    obtain ⟨s, hs, hvs⟩ :=
      List.mem_flatMap.mp (OrderedSet.mem_of_mem_ofList (List.mem_of_find?_eq_some hv))
    cases s with
    | literal l => cases hvs
    | group g => exact ⟨g, hs, v, hvs, hname⟩
  · rintro ⟨g, hg, v, hv, rfl⟩
    obtain ⟨w, hw, hname⟩ := List.mem_map.mp (name_mem_variableNames hg hv)
    exact List.find?_isSome.mpr ⟨w, hw, beq_iff_eq.mpr hname⟩

/-- A variable that is placed is in an expression, and so is every variable that was in one. -/
theorem uses_place :
    (t.place v).Uses v.name ∧ ∀ name, t.Uses name → (t.place v).Uses name := by
  have halone : Uses ⟨t.segments ++ [.group ⟨v.operator, [v]⟩]⟩ v.name ∧
      ∀ name, t.Uses name → Uses ⟨t.segments ++ [.group ⟨v.operator, [v]⟩]⟩ name := by
    refine ⟨⟨⟨v.operator, [v]⟩, by simp, v, by simp, rfl⟩, ?_⟩
    rintro name ⟨g, hg, hname⟩
    exact ⟨g, List.mem_append_left _ hg, hname⟩
  unfold place
  split
  · rename_i g hlast
    obtain ⟨before, hsegments⟩ := lastGroup?_eq_some_iff.mp hlast
    split
    · rw [hsegments, List.dropLast_concat]
      refine ⟨⟨{ g with vars := g.vars ++ [v] }, by simp, v, by simp, rfl⟩, ?_⟩
      rintro name ⟨g', hg', w, hw, rfl⟩
      rw [hsegments] at hg'
      rcases List.mem_append.mp hg' with hbefore | hlast
      · exact ⟨g', List.mem_append_left _ hbefore, w, hw, rfl⟩
      · cases List.mem_singleton.mp hlast
        exact ⟨{ g with vars := g.vars ++ [v] }, by simp, w, List.mem_append_left _ hw, rfl⟩
    · exact halone
  · exact halone

/-- A template uses the name of a variable that is added, and those that it used before. -/
theorem uses_withVariable :
    (t.withVariable v).Uses v.name ∧ ∀ name, t.Uses name → (t.withVariable v).Uses name := by
  unfold withVariable
  split
  · rename_i hname
    exact ⟨hasVariable_iff.mp hname, fun _ => id⟩
  · obtain ⟨hadapt, -⟩ := t.render_adapt v
    have hplace := uses_place (t := t) (v := t.adapt v)
    rwa [hadapt] at hplace

/-- A template uses the names of all variables that are added. -/
theorem uses_withVariables {vs : List Variable} :
    (∀ v ∈ vs, (t.withVariables vs).Uses v.name) ∧
      ∀ name, t.Uses name → (t.withVariables vs).Uses name := by
  induction vs generalizing t with
  | nil => exact ⟨by simp, fun _ => id⟩
  | cons v vs ih =>
    obtain ⟨hvs, hname⟩ := ih (t := t.withVariable v)
    exact ⟨List.forall_mem_cons.mpr ⟨hname _ uses_withVariable.1, hvs⟩,
      fun name h => hname name (uses_withVariable.2 name h)⟩

variable {lookup : Text → Value} {n : ℕ}

/-- Every name stands for a natural number or for nothing. -/
def IsNumeric (lookup : Text → Value) : Prop :=
  ∀ name, lookup name = .null ∨ ∃ n, lookup name = .nat n

/-- Where names stand for numbers, only one of too many digits is an obstacle. -/
theorem eq_longInteger_of_expandWith (hlookup : IsNumeric lookup) {fault : Fault}
    (h : t.expandWith lookup = .error fault) :
    fault = .longInteger ∧ ∃ name n, lookup name = .nat n ∧ ¬Decimal.IsWritable n := by
  obtain ⟨s, -, h⟩ := exists_mem_of_mapM_eq_error (bind_pure_eq_error_iff.mp h)
  cases s with
  | literal l => cases h
  | group g =>
    rw [Segment.expand, Group.expand_eq] at h
    obtain ⟨v, -, hv⟩ := Variable.exists_mem_of_renderings_eq_error (bind_pure_eq_error_iff.mp h)
    rcases hlookup v.name with hnull | ⟨n, hn⟩
    · rw [hnull] at hv
      cases hv
    · rw [hn] at hv
      by_cases hwritable : Decimal.IsWritable n
      · rw [Variable.render_nat hwritable] at hv
        cases hv
      · rw [Variable.render_nat_eq_error hwritable] at hv
        cases hv
        exact ⟨rfl, v.name, n, hn, hwritable⟩

/-- A template that uses a number expands to a text that is not empty if all numbers can be
written. -/
theorem exists_expandWith_of_isWritable (ht : t.IsReadable) (hname : t.Uses name)
    (hlookup : IsNumeric lookup) (hn : lookup name = .nat n)
    (hwritable : ∀ name n, lookup name = .nat n → Decimal.IsWritable n) :
    ∃ u, t.expandWith lookup = .ok u ∧ u ≠ [] := by
  cases hexpand : t.expandWith lookup with
  | error fault =>
    obtain ⟨-, name, k, hk, hlong⟩ := eq_longInteger_of_expandWith hlookup hexpand
    exact absurd (hwritable name k hk) hlong
  | ok u =>
    obtain ⟨g, hg, v, hv, rfl⟩ := hname
    obtain ⟨w, hw, hinfix⟩ := exists_expand_of_mem hg hexpand
    obtain ⟨r, hr, hne⟩ := Group.exists_render hv hw
    rw [hn, Variable.render_nat (hwritable _ n hn)] at hr
    cases hr
    have hwne : w ≠ [] := hne _ rfl
      (Variable.writeScalar_ne_nil (ht.wellFormed_of_mem hg hv) (Decimal.ofNat_ne_nil n))
    exact ⟨u, rfl, fun hnil => hwne (List.eq_nil_of_infix_nil (hnil ▸ hinfix))⟩

/-- A template that uses a number of too many digits cannot be expanded. -/
theorem expandWith_eq_longInteger (hname : t.Uses name) (hlookup : IsNumeric lookup)
    (hn : lookup name = .nat n) (hlong : ¬Decimal.IsWritable n) :
    t.expandWith lookup = .error .longInteger := by
  cases hexpand : t.expandWith lookup with
  | error fault => rw [(eq_longInteger_of_expandWith hlookup hexpand).1]
  | ok u =>
    obtain ⟨g, hg, v, hv, rfl⟩ := hname
    obtain ⟨w, hw, -⟩ := exists_expand_of_mem hg hexpand
    obtain ⟨r, hr, -⟩ := Group.exists_render hv hw
    rw [hn, Variable.render_nat_eq_error hlong] at hr
    cases hr

end Template

end WebLinking
