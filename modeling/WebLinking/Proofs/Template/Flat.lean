import WebLinking.Proofs.Template.Rendering

/-!
# Flat values

A flat value has no other texts in it than those of scalars. A variable that cuts nothing
writes all of them, and nothing stands in the way of that but an integer with too many
digits.
-/

namespace WebLinking

namespace Value

/-- A value that is a scalar, enumeration members included. -/
def isScalar : Value → Bool
  | .scalar _ | .member _ => true
  | _ => false

/-- The text of a scalar, unless it has too many digits for one. -/
def text? : Value → Option Text
  | .scalar s => s.spelling?
  | .member value => Scalar.memberSpelling? value
  | _ => none

/-- The values whose texts are written: the members that are there, or the value itself. -/
def leaves : Value → List Value
  | .null => []
  | .list items | .tuple items => items.filter fun item => !item.isNull
  | .mapping entries =>
    (entries.filter fun entry => !entry.2.isNull).flatMap fun entry => [entry.1, entry.2]
  | value => [value]

/-- A value without further levels: an undefined one, a scalar or, if the variable is
exploded, a list or mapping of scalars. -/
inductive IsFlat (exploded : Bool) : Value → Prop
  /-- An undefined value. -/
  | undefined {value : Value} (h : value.isUndefined = true) : IsFlat exploded value
  /-- A scalar. -/
  | scalar {value : Value} (h : value.isScalar = true) : IsFlat exploded value
  /-- A value with members that are scalars, where the variable is exploded. -/
  | composite {value : Value} (he : exploded = true) (h : ∀ x ∈ value.leaves, x.isScalar = true) :
    IsFlat exploded value

variable {value : Value} {exploded : Bool} {d : Datum}

private theorem leaves_eq_nil_of_isUndefined (h : value.isUndefined = true) :
    value.leaves = [] := by
  cases value with
  | null => rfl
  | list items => exact filter_eq_nil_of_all h
  | tuple items => exact filter_eq_nil_of_all h
  | mapping entries => rw [leaves, filter_eq_nil_of_all h, List.flatMap_nil]
  | _ => cases h

/-- Only texts of scalars are written of a flat value. -/
theorem IsFlat.isScalar_of_mem (h : value.IsFlat exploded) :
    ∀ x ∈ value.leaves, x.isScalar = true := by
  cases h with
  | undefined h =>
    rw [leaves_eq_nil_of_isUndefined h]
    exact fun x hx => absurd hx List.not_mem_nil
  | scalar h =>
    cases value with
    | scalar s => exact fun x hx => List.mem_singleton.mp hx ▸ rfl
    | member m => exact fun x hx => List.mem_singleton.mp hx ▸ rfl
    | _ => cases h
  | composite _ h => exact h

/-- A flat value that is not undefined is defined. -/
theorem IsFlat.exists_datum (h : value.IsFlat exploded) (hdefined : value.isUndefined = false) :
    ∃ d, value.datum? = some d := by
  refine Option.ne_none_iff_exists'.mp fun hnone => ?_
  rcases datum?_eq_none_iff.mp hnone with hundefined | hunordered
  · rw [hdefined] at hundefined
    cases hundefined
  · cases value with
    | unordered kind => exact absurd (h.isScalar_of_mem _ List.mem_cons_self) Bool.false_ne_true
    | stream kind => exact absurd (h.isScalar_of_mem _ List.mem_cons_self) Bool.false_ne_true
    | _ => cases hunordered

/-- What is defined of a flat value is a scalar unless the variable is exploded. -/
theorem IsFlat.scalar_or_exploded (h : value.IsFlat exploded) (hd : value.datum? = some d) :
    (∃ t, d = .scalar t) ∨ exploded = true := by
  cases h with
  | undefined h =>
    rw [datum?_eq_none_iff.mpr (Or.inl h)] at hd
    cases hd
  | scalar h =>
    cases value with
    | scalar s => exact Or.inl ⟨_, (Option.some.inj hd).symm⟩
    | member m => exact Or.inl ⟨_, (Option.some.inj hd).symm⟩
    | _ => cases h
  | composite he _ => exact Or.inr he

end Value

namespace Variable

variable {v : Variable} {value : Value} {fault : Fault}

private theorem eq_error_of_writable {o : Option Text} (h : writable o = .error fault) :
    fault = .longInteger ∧ o = none := by
  cases o with
  | none => exact ⟨(Except.error.inj h).symm, rfl⟩
  | some t => cases h

/-- A scalar is rendered as what is written of its text. -/
theorem render_of_isScalar (h : value.isScalar = true) :
    v.render value = do return some (v.writeScalar (← writable value.text?)) := by
  cases value with
  | scalar s => rfl
  | member m => rfl
  | _ => cases h

private theorem eq_error_of_render_scalar (hscalar : value.isScalar = true)
    (h : v.render value = .error fault) : fault = .longInteger ∧ value.text? = none := by
  rw [render_of_isScalar hscalar] at h
  exact eq_error_of_writable (bind_pure_eq_error_iff.mp h)

/-- A scalar that is a member is written as its text. -/
theorem memberText_of_isScalar (h : value.isScalar = true) :
    v.memberText value = writable value.text? := by
  cases value with
  | scalar s => rfl
  | member m => rfl
  | _ => cases h

private theorem eq_error_of_memberText (hscalar : value.isScalar = true)
    (h : v.memberText value = .error fault) : fault = .longInteger ∧ value.text? = none := by
  rw [memberText_of_isScalar hscalar] at h
  exact eq_error_of_writable h

private theorem writeMembers_ne_error {α : Type} (hlimit : v.maxLength = none)
    (write : List α → Text) (members : List α) : v.writeMembers write members ≠ .error fault := by
  unfold writeMembers
  rw [hlimit]
  split <;> exact nofun

private theorem eq_error_of_render_items {items : List Value}
    (hscalars : ∀ x ∈ (Value.list items).leaves, x.isScalar = true) (hlimit : v.maxLength = none)
    (h : (do v.writeMembers v.writeItems (← v.itemTexts items)) = .error fault) :
    fault = .longInteger ∧ ∃ x ∈ (Value.list items).leaves, x.text? = none := by
  rcases bind_eq_error_iff.mp h with h | ⟨texts, -, h⟩
  · obtain ⟨x, hx, h⟩ := exists_mem_of_mapM_eq_error h
    obtain ⟨hfault, htext⟩ := eq_error_of_memberText (hscalars x hx) h
    exact ⟨hfault, x, hx, htext⟩
  · exact absurd h (writeMembers_ne_error hlimit _ _)

private theorem eq_error_of_render_pairs {entries : List (Value × Value)}
    (hscalars : ∀ x ∈ (Value.mapping entries).leaves, x.isScalar = true)
    (hlimit : v.maxLength = none) (h : v.render (.mapping entries) = .error fault) :
    fault = .longInteger ∧ ∃ x ∈ (Value.mapping entries).leaves, x.text? = none := by
  rcases bind_eq_error_iff.mp h with h | ⟨pairs, -, h⟩
  · obtain ⟨entry, hentry, h⟩ := exists_mem_of_mapM_eq_error h
    have hkey : entry.1 ∈ (Value.mapping entries).leaves :=
      List.mem_flatMap.mpr ⟨entry, hentry, List.mem_cons_self⟩
    have hvalue : entry.2 ∈ (Value.mapping entries).leaves :=
      List.mem_flatMap.mpr ⟨entry, hentry, List.mem_cons_of_mem _ List.mem_cons_self⟩
    rcases bind_eq_error_iff.mp h with h | ⟨key, -, h⟩
    · obtain ⟨hfault, htext⟩ := eq_error_of_memberText (hscalars _ hkey) h
      exact ⟨hfault, _, hkey, htext⟩
    · obtain ⟨hfault, htext⟩ :=
        eq_error_of_memberText (hscalars _ hvalue) (bind_pure_eq_error_iff.mp h)
      exact ⟨hfault, _, hvalue, htext⟩
  · exact absurd h (writeMembers_ne_error hlimit _ _)

/-- A value whose texts are those of scalars fails only because one of them has too many digits. -/
theorem eq_error_of_render (hscalars : ∀ x ∈ value.leaves, x.isScalar = true)
    (hlimit : v.maxLength = none) (h : v.render value = .error fault) :
    fault = .longInteger ∧ ∃ x ∈ value.leaves, x.text? = none := by
  cases value with
  | null => cases h
  | scalar s =>
    obtain ⟨hfault, htext⟩ := eq_error_of_render_scalar rfl h
    exact ⟨hfault, _, List.mem_cons_self, htext⟩
  | member m =>
    obtain ⟨hfault, htext⟩ := eq_error_of_render_scalar rfl h
    exact ⟨hfault, _, List.mem_cons_self, htext⟩
  | list items => exact eq_error_of_render_items hscalars hlimit h
  | tuple items => exact eq_error_of_render_items hscalars hlimit h
  | mapping entries => exact eq_error_of_render_pairs hscalars hlimit h
  | unordered kind => exact absurd (hscalars _ List.mem_cons_self) Bool.false_ne_true
  | stream kind => exact absurd (hscalars _ List.mem_cons_self) Bool.false_ne_true

private theorem text?_ne_none_of_memberText (hscalar : value.isScalar = true) {t : Text}
    (h : v.memberText value = .ok t) : value.text? ≠ none := by
  intro hnone
  rw [memberText_of_isScalar hscalar, hnone] at h
  cases h

private theorem text?_ne_none_of_itemTexts {items : List Value} {texts : List Text}
    (hscalars : ∀ x ∈ (Value.list items).leaves, x.isScalar = true)
    (h : v.itemTexts items = .ok texts) : ∀ x ∈ (Value.list items).leaves, x.text? ≠ none := by
  intro x hx
  obtain ⟨t, -, ht⟩ := exists_result_of_mapM_eq_ok h hx
  exact text?_ne_none_of_memberText (hscalars x hx) ht

private theorem text?_ne_none_of_entryTexts {entries : List (Value × Value)}
    {pairs : List (Text × Text)}
    (hscalars : ∀ x ∈ (Value.mapping entries).leaves, x.isScalar = true)
    (h : v.entryTexts entries = .ok pairs) :
    ∀ x ∈ (Value.mapping entries).leaves, x.text? ≠ none := by
  intro x hx
  have hscalar := hscalars x hx
  obtain ⟨entry, hentry, hx⟩ := List.mem_flatMap.mp hx
  obtain ⟨pair, -, hpair⟩ := exists_result_of_mapM_eq_ok h hentry
  obtain ⟨key, hkey, hpair⟩ := bind_eq_ok_iff.mp hpair
  obtain ⟨member, hmember, -⟩ := bind_eq_ok_iff.mp hpair
  rcases List.mem_pair.mp hx with rfl | rfl
  · exact text?_ne_none_of_memberText hscalar hkey
  · exact text?_ne_none_of_memberText hscalar hmember

/-- If a value whose texts are those of scalars is rendered, all of these can be written. -/
theorem text?_ne_none_of_render (hscalars : ∀ x ∈ value.leaves, x.isScalar = true)
    {o : Option Text} (h : v.render value = .ok o) : ∀ x ∈ value.leaves, x.text? ≠ none := by
  cases value with
  | null => exact fun x hx => absurd hx List.not_mem_nil
  | scalar s | member m =>
    intro x hx hnone
    cases List.mem_singleton.mp hx
    rw [render_of_isScalar rfl, hnone] at h
    cases h
  | list items | tuple items =>
    obtain ⟨texts, htexts, -⟩ := bind_eq_ok_iff.mp h
    exact text?_ne_none_of_itemTexts hscalars htexts
  | mapping entries =>
    obtain ⟨pairs, hpairs, -⟩ := bind_eq_ok_iff.mp h
    exact text?_ne_none_of_entryTexts hscalars hpairs
  | unordered kind | stream kind => cases h

end Variable

end WebLinking
