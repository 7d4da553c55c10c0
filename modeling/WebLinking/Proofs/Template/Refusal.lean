import WebLinking.Proofs.Template.Obstacles

/-!
# Values that are not expanded

What has no order, or can be had only once, is not to be written into a text. A variable looks
for it in its value and in the members of its value; whatever is deeper is inside a member that is
refused for being composite. Streams are looked for in the value only, so one that is a member is
written by the name of its type, unless something else stands in the way.
-/

namespace WebLinking

namespace Value

/-- A source that hands out its members once. -/
def isStream : Value → Bool
  | .stream _ => true
  | _ => false

/-- A value is or holds, at any depth, a value whose members have no order or can be had once. -/
inductive HoldsUnordered : Value → Prop
  /-- The value itself. -/
  | self {value : Value} (h : value.isUnordered = true) : HoldsUnordered value
  /-- A member of a list. -/
  | listItem {items : List Value} {x : Value} (hx : x ∈ items) (h : HoldsUnordered x) :
    HoldsUnordered (.list items)
  /-- A member of a tuple. -/
  | tupleItem {items : List Value} {x : Value} (hx : x ∈ items) (h : HoldsUnordered x) :
    HoldsUnordered (.tuple items)
  /-- The key of an entry. -/
  | entryKey {entries : List (Value × Value)} {entry : Value × Value} (hentry : entry ∈ entries)
    (hvalue : entry.2.isNull = false) (h : HoldsUnordered entry.1) :
    HoldsUnordered (.mapping entries)
  /-- The value of an entry. -/
  | entryValue {entries : List (Value × Value)} {entry : Value × Value} (hentry : entry ∈ entries)
    (hvalue : entry.2.isNull = false) (h : HoldsUnordered entry.2) :
    HoldsUnordered (.mapping entries)

/-- A composite value has a stream as a member, and no member that is nested. -/
def exposesStream (value : Value) : Bool :=
  value.isComposite && value.leaves.any isStream && value.leaves.all fun x => !x.isNested

variable {value x : Value}

/-- What holds something unordered is not absent. -/
theorem HoldsUnordered.isNull_eq_false (h : value.HoldsUnordered) : value.isNull = false := by
  cases h with
  | @self value h => cases value <;> first | rfl | cases h
  | _ => rfl

/-- Something unordered is the value itself or is held by a member that is to be written. -/
theorem HoldsUnordered.cases_leaves (h : value.HoldsUnordered) :
    value.isUnordered = true ∨ value.isComposite = true ∧ ∃ x ∈ value.leaves, x.HoldsUnordered := by
  cases h with
  | self h => exact Or.inl h
  | listItem hx h =>
    exact Or.inr ⟨rfl, _, List.mem_filter.mpr ⟨hx, by simp [h.isNull_eq_false]⟩, h⟩
  | tupleItem hx h =>
    exact Or.inr ⟨rfl, _, List.mem_filter.mpr ⟨hx, by simp [h.isNull_eq_false]⟩, h⟩
  | @entryKey entries entry hentry hvalue h =>
    have hkept : entry ∈ entries.filter fun entry => !entry.2.isNull :=
      List.mem_filter.mpr ⟨hentry, by rw [hvalue]; rfl⟩
    exact Or.inr ⟨rfl, _, List.mem_flatMap.mpr ⟨entry, hkept, List.mem_cons_self⟩, h⟩
  | @entryValue entries entry hentry hvalue h =>
    have hkept : entry ∈ entries.filter fun entry => !entry.2.isNull :=
      List.mem_filter.mpr ⟨hentry, by rw [hvalue]; rfl⟩
    exact Or.inr ⟨rfl, _, List.mem_flatMap.mpr
      ⟨entry, hkept, List.mem_cons_of_mem _ List.mem_cons_self⟩, h⟩

/-- What holds something unordered is defined. -/
theorem HoldsUnordered.isUndefined_eq_false (h : value.HoldsUnordered) :
    value.isUndefined = false := by
  rcases h.cases_leaves with hunordered | ⟨-, x, hx, -⟩
  · cases value <;> first | rfl | cases hunordered
  · refine Bool.eq_false_iff.mpr fun hundefined => ?_
    rw [leaves_eq_nil_iff.mpr hundefined] at hx
    cases hx

/-- As a member, what holds something unordered is nested, or is a stream. -/
theorem HoldsUnordered.isNested_or_isStream (h : x.HoldsUnordered) :
    x.isNested = true ∨ x.isStream = true := by
  cases h with
  | @self x h =>
    cases x with
    | unordered kind => exact Or.inl rfl
    | stream kind => exact Or.inr rfl
    | _ => cases h
  | _ => exact Or.inl rfl

/-- A composite value exposes a stream if one is a member and no member is nested. -/
theorem exposesStream_iff :
    value.exposesStream = true ↔
      value.isComposite = true ∧ (∃ x ∈ value.leaves, x.isStream = true) ∧
        ∀ x ∈ value.leaves, x.isNested = false := by
  simp [exposesStream, and_assoc]

end Value

namespace Variable

variable {v : Variable} {value : Value}

/-- A value that holds something unordered is refused, unless that is streams among members and
nothing is cut. -/
theorem refuses_iff_of_holdsUnordered (h : value.HoldsUnordered) :
    v.Refuses value ↔ value.exposesStream = false ∨ v.maxLength.isSome = true := by
  constructor
  · intro hrefuses
    by_contra hneither
    obtain ⟨hexposes, hlimit⟩ := not_or.mp hneither
    obtain ⟨hcomposite, -, hflat⟩ :=
      Value.exposesStream_iff.mp ((Bool.not_eq_false _).mp hexposes)
    rcases hrefuses with hunordered | ⟨x, hx, hnested⟩ | ⟨hsome, -⟩
    · cases value <;> simp [Value.isUnordered, Value.isComposite] at hunordered hcomposite
    · exact Bool.false_ne_true ((hflat x hx).symm.trans hnested)
    · exact hlimit hsome
  · intro hor
    rcases h.cases_leaves with hunordered | ⟨hcomposite, x, hx, hholds⟩
    · exact Or.inl hunordered
    by_cases hnested : ∃ y ∈ value.leaves, y.isNested = true
    · exact Or.inr (Or.inl hnested)
    have hflat : ∀ y ∈ value.leaves, y.isNested = false := by
      intro y hy
      exact Bool.eq_false_iff.mpr fun hy' => hnested ⟨y, hy, hy'⟩
    have hstream : x.isStream = true :=
      hholds.isNested_or_isStream.resolve_left fun hx' => hnested ⟨x, hx, hx'⟩
    have hexposes := Value.exposesStream_iff.mpr ⟨hcomposite, ⟨x, hx, hstream⟩, hflat⟩
    have hlimit := hor.resolve_left (by simp [hexposes])
    exact Or.inr (Or.inr ⟨hlimit, hcomposite, h.isUndefined_eq_false⟩)

/-- A value that is refused is not rendered. -/
theorem Refuses.render_ne_ok (h : v.Refuses value) (r : Option Text) : v.render value ≠ .ok r := by
  intro hr
  have hends := v.ends_render value
  rw [hr] at hends
  cases hends with
  | undefined hundefined => exact (not_refuses_of_isUndefined hundefined).1 h
  | written t hrefuses hlong hdefined => exact hrefuses h

end Variable

/-- An expression fails as its variables do, one after another. -/
theorem Group.alike_expand (g : Group) (lookup : Text → Value) :
    Alike (fun _ _ => True) (g.expand lookup) (g.vars.mapM fun v => v.render (lookup v.name)) := by
  rw [Group.expand_eq, Variable.renderings]
  cases g.vars.mapM fun v => v.render (lookup v.name) with
  | ok rendered => exact .ok trivial
  | error fault => exact .error fault

namespace Template

variable {t : Template} {lookup : Text → Value} {fault : Fault}

/-- The variables of a template, as often as they occur. -/
def occurrences (t : Template) : List Variable := t.segments.flatMap Segment.vars

/-- A template fails as its variables do, one after another. -/
theorem alike_expandWith (t : Template) (lookup : Text → Value) :
    Alike (fun _ _ => True) (t.expandWith lookup)
      (t.occurrences.mapM fun v => v.render (lookup v.name)) := by
  obtain ⟨segments⟩ := t
  unfold occurrences
  induction segments with
  | nil => exact .ok trivial
  | cons s segments ih =>
    have hs : Alike (fun _ _ => True) (s.expand lookup)
        (s.vars.mapM fun v => v.render (lookup v.name)) := by
      cases s with
      | literal l => exact .ok trivial
      | group g => exact g.alike_expand lookup
    rw [expandWith_cons, List.flatMap_cons, List.mapM_append]
    exact hs.bind fun _ _ _ => ih.bind fun _ _ _ => .ok trivial

/-- A template meets an obstacle exactly if a variable refuses its value and no long integer comes
first. -/
theorem expandWith_eq_unresolvable_iff :
    (∃ name o, t.expandWith lookup = .error (.unresolvable name o)) ↔
      ∃ before v after, t.occurrences = before ++ v :: after ∧ v.Refuses (lookup v.name) ∧
        ∀ w ∈ before ++ [v], (lookup w.name).isLongFirst = false := by
  simp only [(alike_expandWith t lookup).eq_error_iff]
  constructor
  · rintro ⟨name, o, h⟩
    obtain ⟨before, v, after, hsplit, hbefore, hv⟩ := mapM_eq_error_iff.mp h
    refine ⟨before, v, after, hsplit, ?_⟩
    have hends := v.ends_render (lookup v.name)
    rw [hv] at hends
    cases hends with
    | refused o hrefuses hlong =>
      refine ⟨hrefuses, fun w hw => ?_⟩
      rcases List.mem_append.mp hw with hw | hw
      · obtain ⟨r, hr⟩ := hbefore w hw
        refine Bool.eq_false_iff.mpr fun hwlong => ?_
        cases hr.symm.trans ((w.render_outcome _).1.mpr hwlong)
      · rwa [List.mem_singleton.mp hw]
  · rintro ⟨before, v, after, hsplit, hrefuses, hlong⟩
    rw [hsplit, List.append_cons, List.mapM_append]
    cases hfirst : (before ++ [v]).mapM fun w => w.render (lookup w.name) with
    | ok rendered =>
      obtain ⟨r, -, hr⟩ :=
        exists_result_of_mapM_eq_ok hfirst (List.mem_append_right _ List.mem_cons_self)
      exact absurd hr (hrefuses.render_ne_ok r)
    | error fault =>
      obtain ⟨w, hw, hwfault⟩ := exists_mem_of_mapM_eq_error hfirst
      have hends := w.ends_render (lookup w.name)
      rw [hwfault] at hends
      cases hends with
      | long h => exact absurd ((hlong w hw).symm.trans h) Bool.false_ne_true
      | refused o h hwlong => exact ⟨w.name, o, rfl⟩

/-- A template is not expanded if one of its variables refuses its value. -/
theorem expandWith_of_refuses {v : Variable} (hv : v ∈ t.occurrences)
    (hrefuses : v.Refuses (lookup v.name)) :
    (∃ name o, t.expandWith lookup = .error (.unresolvable name o)) ∨
      t.expandWith lookup = .error .longInteger ∧
        ∃ w ∈ t.occurrences, (lookup w.name).isLongFirst = true := by
  cases hrendered : t.occurrences.mapM fun w => w.render (lookup w.name) with
  | ok rendered =>
    obtain ⟨r, -, hr⟩ := exists_result_of_mapM_eq_ok hrendered hv
    exact absurd hr (hrefuses.render_ne_ok r)
  | error fault =>
    rw [(alike_expandWith t lookup).eq_error_iff.mpr hrendered]
    obtain ⟨w, hw, hwfault⟩ := exists_mem_of_mapM_eq_error hrendered
    have hends := w.ends_render (lookup w.name)
    rw [hwfault] at hends
    cases hends with
    | long h => exact Or.inr ⟨rfl, w, hw, h⟩
    | refused o h hlong => exact Or.inl ⟨w.name, o, rfl⟩

/-- A value that is or holds something unordered is not expanded, with the exception of streams that
are members. -/
theorem expand_of_holdsUnordered {v : Variable} (hv : v ∈ t.occurrences)
    (values arguments : Bindings)
    (hholds : (Bindings.effective values arguments v.name).HoldsUnordered) :
    let lookup := Bindings.effective values arguments
    (v.Refuses (lookup v.name) ↔
        (lookup v.name).exposesStream = false ∨ v.maxLength.isSome = true) ∧
      (v.Refuses (lookup v.name) →
        (∃ name o, t.expand values arguments = .error (.unresolvable name o)) ∨
          t.expand values arguments = .error .longInteger ∧
            ∃ w ∈ t.occurrences, (lookup w.name).isLongFirst = true) ∧
      ((∃ name o, t.expand values arguments = .error (.unresolvable name o)) ↔
        ∃ before w after, t.occurrences = before ++ w :: after ∧ w.Refuses (lookup w.name) ∧
          ∀ u ∈ before ++ [w], (lookup u.name).isLongFirst = false) ∧
      (¬v.Refuses (lookup v.name) → (lookup v.name).isLongFirst = false →
        ∃ u, v.render (lookup v.name) = .ok (some u)) := by
  intro lookup
  refine ⟨Variable.refuses_iff_of_holdsUnordered hholds, expandWith_of_refuses hv,
    expandWith_eq_unresolvable_iff, fun hrefuses hlong => ?_⟩
  exact (v.render_outcome (lookup v.name)).2.2.2.mpr
    ⟨hrefuses, hlong, hholds.isUndefined_eq_false⟩

/-- A generator as the value of an entry of a mapping that is a member of a tuple. -/
theorem expand_of_holdsUnordered_nested :
    ∃ (t : Template) (v : Variable) (values : Bindings),
      parse "/a\x7b?n,x*\x7d".toList = .ok t ∧ v ∈ t.occurrences ∧ v.isExploded = true ∧
      values = [("n".toList, .int 1), ("x".toList, .tuple [.text "a".toList, .null,
        .mapping [(.text "k".toList, .stream .generator)]])] ∧
      (Bindings.effective values [] v.name).HoldsUnordered ∧
      v.Refuses (Bindings.effective values [] v.name) ∧
      ∃ name o, t.expand values [] = .error (.unresolvable name o) := by
  let v : Variable := { name := "x".toList, kind := .list }
  let t : Template :=
    ⟨[.literal "/a".toList, .group ⟨.query, [{ name := "n".toList, kind := .requestParam }, v]⟩]⟩
  let values : Bindings := [("n".toList, .int 1), ("x".toList, .tuple [.text "a".toList, .null,
    .mapping [(.text "k".toList, .stream .generator)]])]
  have hparse : parse "/a\x7b?n,x*\x7d".toList = .ok t := rfl
  have hv : v ∈ t.occurrences := by decide
  have hholds : (Bindings.effective values [] v.name).HoldsUnordered :=
    .tupleItem (List.mem_cons_of_mem _ (List.mem_cons_of_mem _ List.mem_cons_self))
      (.entryValue List.mem_cons_self rfl (.self rfl))
  have hshort : ∀ w ∈ t.occurrences,
      (Bindings.effective values [] w.name).isLongFirst = false := by decide +kernel
  obtain ⟨hiff, hfault, -, -⟩ := expand_of_holdsUnordered hv values [] hholds
  have hrefuses := hiff.mpr (Or.inl rfl)
  refine ⟨t, v, values, hparse, hv, rfl, rfl, hholds, hrefuses, (hfault hrefuses).resolve_right ?_⟩
  rintro ⟨-, w, hw, hlong⟩
  exact Bool.false_ne_true ((hshort w hw).symm.trans hlong)

/-- A stream that is a member is expanded. -/
theorem exists_expand_of_stream :
    ∃ (t : Template) (values : Bindings),
      parse "\x7bx\x7d".toList = .ok t ∧
      values = [("x".toList, .list [.stream .listIterator])] ∧
      (∃ v ∈ t.occurrences, (Bindings.effective values [] v.name).HoldsUnordered) ∧
      (∃ u, t.expand values [] = .ok u) ∧
      ∀ name o, t.expand values [] ≠ .error (.unresolvable name o) := by
  let v : Variable := { name := "x".toList }
  let values : Bindings := [("x".toList, .list [.stream .listIterator])]
  exact ⟨⟨[.group ⟨.simple, [v]⟩]⟩, values, rfl, rfl,
    ⟨v, by decide, .listItem List.mem_cons_self (.self rfl)⟩, ⟨_, rfl⟩, nofun⟩

end Template

end WebLinking
