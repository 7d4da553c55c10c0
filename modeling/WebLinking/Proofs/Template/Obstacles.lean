import WebLinking.Proofs.Template.Numbers
import WebLinking.Proofs.Template.Flat

/-!
# When rendering fails

A value is looked at in a fixed order: whether its members have an order, then each member that
is not absent from the first one on, and the prefix length only if there is such a member. So
the members of a value decide how rendering ends, and the first of them that has no text decides
which fault it is.
-/

namespace WebLinking

namespace Value

/-- A list, a tuple or a mapping. -/
def isComposite : Value → Bool
  | .list _ | .tuple _ | .mapping _ => true
  | _ => false

/-- A value that cannot be a member of another one: absent, composite or without an order. -/
def isNested : Value → Bool
  | .null | .list _ | .tuple _ | .mapping _ | .unordered _ => true
  | _ => false

/-- An integer, or an enumeration member with one, that has too many digits to be written. -/
def isLong : Value → Bool
  | .scalar (.int i) | .member (some (.int i)) => !decide (Decimal.IsWritable i.natAbs)
  | _ => false

/-- A value that has no text as the member of another one. -/
def isFlawed (value : Value) : Bool := value.isNested || value.isLong

/-- An integer of too many digits comes first among the values to be written that have no
text. -/
def isLongFirst (value : Value) : Bool := (value.leaves.find? isFlawed).any isLong

variable {value x : Value}

/-- The scalars without a text are the integers of too many digits. -/
theorem isLong_eq (h : value.isScalar = true) : value.isLong = value.text?.isNone := by
  have hint : ∀ i : ℤ, (!decide (Decimal.IsWritable i.natAbs)) = (Decimal.written? i).isNone := by
    intro i
    rw [Bool.eq_iff_iff, Option.isNone_iff_eq_none, Decimal.written?_eq_none_iff]
    simp
  have hscalar : ∀ s : Scalar, (Value.scalar s).isLong = s.spelling?.isNone := by
    rintro (b | i | x | t)
    · cases b <;> rfl
    · exact hint i
    · rfl
    · rfl
  cases value with
  | scalar s => exact hscalar s
  | member m =>
    rcases m with - | (b | i | x | t)
    · rfl
    · cases b <;> rfl
    · exact hint i
    · rfl
    · rfl
  | _ => cases h

/-- What is nested is no integer. -/
theorem isLong_of_isNested (h : value.isNested = true) : value.isLong = false := by
  cases value with
  | scalar s => cases h
  | member m => cases h
  | _ => rfl

/-- Nothing is to be written of undefined values, and of no others. -/
theorem leaves_eq_nil_iff : value.leaves = [] ↔ value.isUndefined = true := by
  cases value <;> simp [leaves, isUndefined, List.filter_eq_nil_iff]

end Value

namespace Variable

/-- A variable refuses what has no order or a nested member and, with a prefix length, what is
composite. -/
def Refuses (v : Variable) (value : Value) : Prop :=
  value.isUnordered = true ∨ (∃ x ∈ value.leaves, x.isNested = true) ∨
    v.maxLength.isSome = true ∧ value.isComposite = true ∧ value.isUndefined = false

instance (v : Variable) (value : Value) : Decidable (v.Refuses value) :=
  inferInstanceAs (Decidable (_ ∨ _ ∨ _))

variable {v : Variable} {value x : Value} {fault : Fault}

/-- A member has no text if it is nested, which is an obstacle, or too long. -/
theorem memberText_eq_error_iff :
    v.memberText x = .error fault ↔
      x.isNested = true ∧ fault = .unresolvable v.name (.nested x.typeName) ∨
        x.isLong = true ∧ fault = .longInteger := by
  have hwritable : ∀ o : Option Text,
      writable o = .error fault ↔ o.isNone = true ∧ fault = .longInteger := by
    rintro (- | t) <;> simp [writable, eq_comm]
  cases x with
  | scalar s =>
    rw [Value.isLong_eq rfl]
    simpa [memberText, Value.text?, Value.isNested] using hwritable s.spelling?
  | member m =>
    rw [Value.isLong_eq rfl]
    simpa [memberText, Value.text?, Value.isNested] using hwritable (Scalar.memberSpelling? m)
  | stream kind => simp [memberText, Value.isNested, Value.isLong]
  | _ => simp [memberText, obstacle, Value.isNested, Value.isLong, eq_comm]

/-- The members without a text are the flawed ones. -/
theorem isFlawed_iff : x.isFlawed = true ↔ ∃ fault, v.memberText x = .error fault := by
  simp only [memberText_eq_error_iff, exists_or, exists_and_left, exists_eq, and_true,
    Value.isFlawed, Bool.or_eq_true]

/-- A row of members fails because of the first flawed one, by its digits or as an obstacle. -/
theorem fault_of_mapM_eq_error (h : value.leaves.mapM v.memberText = .error fault) :
    fault = .longInteger ∧ value.isLongFirst = true ∨
      ∃ o, fault = .unresolvable v.name o ∧ (∃ x ∈ value.leaves, x.isNested = true) ∧
        value.isLongFirst = false := by
  obtain ⟨before, x, after, hleaves, hbefore, hx⟩ := mapM_eq_error_iff.mp h
  have hfirst : ∀ y ∈ before, (!y.isFlawed) = true := by
    intro y hy
    obtain ⟨t, ht⟩ := hbefore y hy
    rw [Bool.not_eq_true', Bool.eq_false_iff]
    intro hflawed
    obtain ⟨e, he⟩ := isFlawed_iff.mp hflawed
    cases ht.symm.trans he
  have hfind : value.leaves.find? Value.isFlawed = some x :=
    List.find?_eq_some_iff_append.mpr
      ⟨isFlawed_iff.mpr ⟨fault, hx⟩, before, after, hleaves, hfirst⟩
  have hlong : value.isLongFirst = x.isLong := by
    rw [Value.isLongFirst, hfind, Option.any_some]
  rcases memberText_eq_error_iff.mp hx with ⟨hnested, rfl⟩ | ⟨hxlong, rfl⟩
  · exact Or.inr ⟨_, rfl, ⟨x, List.mem_of_find?_eq_some hfind, hnested⟩,
      hlong.trans (Value.isLong_of_isNested hnested)⟩
  · exact Or.inl ⟨rfl, hlong.trans hxlong⟩

/-- If a row of members has texts, then none of them is nested and no integer has too many
digits. -/
theorem not_nested_of_mapM_eq_ok {texts : List Text}
    (h : value.leaves.mapM v.memberText = .ok texts) :
    (∀ x ∈ value.leaves, x.isNested = false) ∧ value.isLongFirst = false := by
  have hsound : ∀ x ∈ value.leaves, ¬x.isFlawed = true := by
    intro x hx hflawed
    obtain ⟨t, -, ht⟩ := exists_result_of_mapM_eq_ok h hx
    obtain ⟨fault, hfault⟩ := isFlawed_iff.mp hflawed
    cases ht.symm.trans hfault
  refine ⟨fun x hx => Bool.eq_false_iff.mpr fun hnested => hsound x hx ?_, ?_⟩
  · rw [Value.isFlawed, hnested, Bool.true_or]
  · rw [Value.isLongFirst, List.find?_eq_none.mpr hsound, Option.any_none]

/-- The texts of entries are those of their keys and values, one after the other. -/
theorem mapM_leaves_mapping (v : Variable) (entries : List (Value × Value)) :
    (Value.mapping entries).leaves.mapM v.memberText =
      (List.flatMap fun pair => [pair.1, pair.2]) <$> v.entryTexts entries := by
  rw [Value.leaves, entryTexts]
  generalize entries.filter (fun entry => !entry.2.isNull) = kept
  induction kept with
  | nil => rfl
  | cons entry kept ih =>
    simp only [List.flatMap_cons, List.cons_append, List.nil_append, List.mapM_cons, ih, pairTexts,
      map_eq_pure_bind, bind_assoc, pure_bind]

/-- A composite value is written member by member, and what fails is one of its members. -/
theorem exists_render_eq_bind (h : value.isComposite = true) :
    ∃ (α : Type) (write : List α → Text) (texts : Except Fault (List α)),
      v.render value = texts >>= v.writeMembers write ∧
        ∀ fault, texts = .error fault ↔ value.leaves.mapM v.memberText = .error fault := by
  cases value with
  | list items => exact ⟨Text, v.writeItems, v.itemTexts items, rfl, fun _ => Iff.rfl⟩
  | tuple items => exact ⟨Text, v.writeItems, v.itemTexts items, rfl, fun _ => Iff.rfl⟩
  | mapping entries =>
    refine ⟨Text × Text, v.writePairs, v.entryTexts entries, rfl, fun fault => ?_⟩
    rw [mapM_leaves_mapping, map_eq_pure_bind, bind_pure_eq_error_iff]
  | _ => cases h

/-- A composite value fails as its members do; if they have texts, it is written unless there
is a prefix length. -/
theorem render_composite (hcomposite : value.isComposite = true)
    (hne : value.isUndefined = false) :
    (∃ fault, value.leaves.mapM v.memberText = .error fault ∧ v.render value = .error fault) ∨
      ∃ texts t, value.leaves.mapM v.memberText = .ok texts ∧
        v.render value =
          if v.maxLength.isSome then v.obstacle .prefixedComposite else .ok (some t) := by
  obtain ⟨α, write, texts, hrender, herror⟩ := exists_render_eq_bind (v := v) hcomposite
  cases htexts : texts with
  | error fault =>
    exact Or.inl ⟨fault, (herror fault).mp htexts, by rw [hrender, htexts]; rfl⟩
  | ok members =>
    cases hmembers : value.leaves.mapM v.memberText with
    | error fault => cases htexts.symm.trans ((herror fault).mpr hmembers)
    | ok leafTexts =>
      have hrender : v.render value = v.writeMembers write members := by
        rw [hrender, htexts]
        rfl
      have hmembers : ¬members.isEmpty = true := by
        intro hempty
        rw [writeMembers, if_pos hempty] at hrender
        rw [render_eq_none_iff.mp hrender] at hne
        cases hne
      refine Or.inr ⟨leafTexts, write members, rfl, ?_⟩
      rw [hrender, writeMembers, if_neg hmembers]

/-- How rendering a value may end. -/
inductive Ends (v : Variable) (value : Value) : Except Fault (Option Text) → Prop
  /-- At an integer of too many digits. -/
  | long (h : value.isLongFirst = true) : Ends v value (.error .longInteger)
  /-- At an obstacle, which names the variable. -/
  | refused (o : Obstacle) (h : v.Refuses value) (hlong : value.isLongFirst = false) :
      Ends v value (.error (.unresolvable v.name o))
  /-- With nothing for an undefined value. -/
  | undefined (h : value.isUndefined = true) : Ends v value (.ok none)
  /-- With a text for any other value. -/
  | written (t : Text) (h : ¬v.Refuses value) (hlong : value.isLongFirst = false)
      (hdefined : value.isUndefined = false) : Ends v value (.ok (some t))

/-- A scalar is defined and not refused, and there is nothing to be written but itself. -/
theorem not_refuses_of_isScalar (h : value.isScalar = true) :
    ¬v.Refuses value ∧ value.isUndefined = false ∧ value.leaves = [value] ∧
      value.isNested = false := by
  obtain ⟨hunordered, hcomposite, hdefined, hleaves, hnested⟩ : value.isUnordered = false ∧
      value.isComposite = false ∧ value.isUndefined = false ∧ value.leaves = [value] ∧
        value.isNested = false := by
    cases value with
    | scalar s => exact ⟨rfl, rfl, rfl, rfl, rfl⟩
    | member m => exact ⟨rfl, rfl, rfl, rfl, rfl⟩
    | _ => cases h
  exact ⟨by simp [Refuses, hunordered, hcomposite, hleaves, hnested], hdefined, hleaves, hnested⟩

private theorem ends_of_isScalar (h : value.isScalar = true) : v.Ends value (v.render value) := by
  obtain ⟨hrefuses, hdefined, hleaves, hnested⟩ := not_refuses_of_isScalar (v := v) h
  rw [render_of_isScalar h]
  cases htext : value.text? with
  | none =>
    have hlong : value.isLong = true := by rw [Value.isLong_eq h, htext]; rfl
    exact .long (by simp [Value.isLongFirst, hleaves, Value.isFlawed, hlong])
  | some t =>
    have hlong : value.isLong = false := by rw [Value.isLong_eq h, htext]; rfl
    exact .written _ hrefuses
      (by simp [Value.isLongFirst, hleaves, Value.isFlawed, hnested, hlong]) hdefined

private theorem ends_of_isComposite (hcomposite : value.isComposite = true) :
    v.Ends value (v.render value) := by
  have hordered : value.isUnordered = false := by
    cases value <;> first | rfl | cases hcomposite
  by_cases hdefined : value.isUndefined = true
  · rw [render_eq_none_iff.mpr hdefined]
    exact .undefined hdefined
  rw [Bool.not_eq_true] at hdefined
  rcases render_composite (v := v) hcomposite hdefined with
    ⟨fault, hleaves, hrender⟩ | ⟨texts, t, hleaves, hrender⟩
  · rw [hrender]
    rcases fault_of_mapM_eq_error hleaves with ⟨rfl, hlong⟩ | ⟨o, rfl, hnested, hlong⟩
    · exact .long hlong
    · exact .refused o (Or.inr (Or.inl hnested)) hlong
  · obtain ⟨hnested, hlong⟩ := not_nested_of_mapM_eq_ok hleaves
    rw [hrender]
    by_cases hlimit : v.maxLength.isSome = true
    · rw [if_pos hlimit]
      exact .refused _ (Or.inr (Or.inr ⟨hlimit, hcomposite, hdefined⟩)) hlong
    · rw [if_neg hlimit]
      have hrefuses : ¬v.Refuses value := by
        rintro (hunordered | ⟨x, hx, hxnested⟩ | ⟨hsome, -⟩)
        · exact Bool.false_ne_true (hordered.symm.trans hunordered)
        · exact Bool.false_ne_true ((hnested x hx).symm.trans hxnested)
        · exact hlimit hsome
      exact .written t hrefuses hlong hdefined

/-- Rendering ends in one of four ways. -/
theorem ends_render (v : Variable) (value : Value) : v.Ends value (v.render value) := by
  cases value with
  | null => exact .undefined rfl
  | scalar s => exact ends_of_isScalar rfl
  | member m => exact ends_of_isScalar rfl
  | unordered kind => exact .refused _ (Or.inl rfl) rfl
  | stream kind => exact .refused _ (Or.inl rfl) rfl
  | list items => exact ends_of_isComposite rfl
  | tuple items => exact ends_of_isComposite rfl
  | mapping entries => exact ends_of_isComposite rfl

/-- An undefined value is not refused, and no integer stands in its way. -/
theorem not_refuses_of_isUndefined (h : value.isUndefined = true) :
    ¬v.Refuses value ∧ value.isLongFirst = false := by
  have hleaves := Value.leaves_eq_nil_iff.mpr h
  have hunordered : value.isUnordered = false := by
    cases value <;> first | rfl | cases h
  exact ⟨by simp [Refuses, hleaves, hunordered, h], by simp [Value.isLongFirst, hleaves]⟩

/-- A value fails by its digits, is refused, renders nothing or renders a text, each in one case
exactly. -/
theorem render_outcome (v : Variable) (value : Value) :
    (v.render value = .error .longInteger ↔ value.isLongFirst = true) ∧
    ((∃ o, v.render value = .error (.unresolvable v.name o)) ↔
      v.Refuses value ∧ value.isLongFirst = false) ∧
    (v.render value = .ok none ↔ value.isUndefined = true) ∧
    ((∃ t, v.render value = .ok (some t)) ↔
      ¬v.Refuses value ∧ value.isLongFirst = false ∧ value.isUndefined = false) := by
  have hdefined : v.Refuses value ∨ value.isLongFirst = true → value.isUndefined = false := by
    refine fun h => Bool.eq_false_iff.mpr fun hundefined => ?_
    obtain ⟨hrefuses, hlong⟩ := not_refuses_of_isUndefined (v := v) hundefined
    rw [hlong] at h
    exact h.elim hrefuses Bool.false_ne_true
  have hends := v.ends_render value
  generalize v.render value = outcome at hends
  cases hends with
  | long h => simp [h, hdefined (Or.inr h)]
  | refused o h hlong => simp [h, hlong, hdefined (Or.inl h)]
  | undefined h =>
    obtain ⟨hrefuses, hlong⟩ := not_refuses_of_isUndefined (v := v) h
    simp [hrefuses, hlong, h]
  | written t h hlong hdefined => simp [h, hlong, hdefined]

/-- The smallest number of too many digits is no obstacle, and still it is not rendered. -/
theorem exists_render_eq_longInteger :
    ∃ (v : Variable) (value : Value), value = .nat (10 ^ 4300) ∧ ¬v.Refuses value ∧
      value.isUndefined = false ∧ v.render value = .error .longInteger ∧
      ∀ t, v.render value ≠ .ok (some t) := by
  let v : Variable := { name := ['n'] }
  let n := 10 ^ Decimal.digitLimit
  have hlimit : Decimal.digitLimit = 4300 := rfl
  have hrender : v.render (.nat n) = .error .longInteger :=
    render_nat_eq_error (Nat.lt_irrefl n)
  have hscalar : (Value.nat n).isScalar = true := rfl
  obtain ⟨hrefuses, hdefined, -⟩ := not_refuses_of_isScalar (v := v) hscalar
  refine ⟨v, .nat n, by rw [← hlimit], hrefuses, hdefined, hrender, fun t h => ?_⟩
  rw [hrender] at h
  cases h

end Variable

end WebLinking
