import Mathlib.Data.List.Forall2

/-!
# Outcomes

An operation ends in a result or in a fault. A sequence of operations has a result if
each of them has one, and the first fault of a sequence is the fault of the whole. Two
sequences whose operations end alike, step by step, end alike.
-/

namespace WebLinking

variable {α β ε : Type}

/-- Two operations in sequence have a result if both have. -/
theorem bind_eq_ok_iff {x : Except ε α} {f : α → Except ε β} {b : β} :
    (x >>= f) = .ok b ↔ ∃ a, x = .ok a ∧ f a = .ok b := by
  cases x with
  | ok a => simp [bind, Except.bind]
  | error e => simp [bind, Except.bind]

/-- Two operations in sequence fail if one of them fails. -/
theorem bind_eq_error_iff {x : Except ε α} {f : α → Except ε β} {e : ε} :
    (x >>= f) = .error e ↔ x = .error e ∨ ∃ a, x = .ok a ∧ f a = .error e := by
  cases x with
  | ok a => simp [bind, Except.bind]
  | error e' => simp [bind, Except.bind]

/-- What is made of a result fails if there is none. -/
theorem bind_pure_eq_error_iff {x : Except ε α} {f : α → β} {e : ε} :
    (x >>= fun a => pure (f a)) = .error e ↔ x = .error e := by
  rw [bind_eq_error_iff, or_iff_left_iff_imp]
  rintro ⟨a, -, h⟩
  cases h

/-- A traversal has a result if every member has one. -/
theorem mapM_eq_ok_iff {f : α → Except ε β} {xs : List α} {ys : List β} :
    xs.mapM f = .ok ys ↔ List.Forall₂ (fun x y => f x = .ok y) xs ys := by
  induction xs generalizing ys with
  | nil => simp [pure, Except.pure, eq_comm]
  | cons x xs ih =>
    rw [List.mapM_cons, List.forall₂_cons_left_iff, bind_eq_ok_iff]
    constructor
    · rintro ⟨y, hy, h⟩
      obtain ⟨more, hmore, h⟩ := bind_eq_ok_iff.mp h
      cases h
      exact ⟨y, more, hy, ih.mp hmore, rfl⟩
    · rintro ⟨y, more, hy, hmore, rfl⟩
      exact ⟨y, hy, bind_eq_ok_iff.mpr ⟨more, ih.mpr hmore, rfl⟩⟩

/-- A traversal in which no member fails has results. -/
theorem exists_mapM_eq_ok {f : α → Except ε β} {xs : List α} (h : ∀ x ∈ xs, ∃ y, f x = .ok y) :
    ∃ ys, xs.mapM f = .ok ys := by
  induction xs with
  | nil => exact ⟨[], rfl⟩
  | cons x xs ih =>
    obtain ⟨⟨y, hy⟩, hmore⟩ := List.forall_mem_cons.mp h
    obtain ⟨ys, hys⟩ := ih hmore
    exact ⟨y :: ys, mapM_eq_ok_iff.mpr (.cons hy (mapM_eq_ok_iff.mp hys))⟩

/-- A traversal has the results that a function foretells for its members. -/
theorem map_eq_of_mapM_eq_ok {f : α → Except ε β} {g : α → β} {xs : List α} {ys : List β}
    (h : xs.mapM f = .ok ys) (hg : ∀ x y, f x = .ok y → g x = y) : xs.map g = ys := by
  rw [← List.forall₂_eq_eq_eq, List.forall₂_map_left_iff]
  exact (mapM_eq_ok_iff.mp h).imp hg

/-- Every result of a traversal is the result of a member. -/
theorem exists_mem_of_mapM_eq_ok {f : α → Except ε β} {xs : List α} {ys : List β}
    (h : xs.mapM f = .ok ys) {y : β} (hy : y ∈ ys) : ∃ x ∈ xs, f x = .ok y := by
  have hall := mapM_eq_ok_iff.mp h
  clear h
  induction hall with
  | nil => cases hy
  | @cons x z xs ys hz _ ih =>
    rcases List.mem_cons.mp hy with rfl | hy
    · exact ⟨x, List.mem_cons_self, hz⟩
    · obtain ⟨w, hw, he⟩ := ih hy
      exact ⟨w, List.mem_cons_of_mem x hw, he⟩

/-- Every member has a result among those of a traversal. -/
theorem exists_result_of_mapM_eq_ok {f : α → Except ε β} {xs : List α} {ys : List β}
    (h : xs.mapM f = .ok ys) {x : α} (hx : x ∈ xs) : ∃ y ∈ ys, f x = .ok y := by
  have hall := mapM_eq_ok_iff.mp h
  clear h
  induction hall with
  | nil => cases hx
  | @cons z y xs ys hy _ ih =>
    rcases List.mem_cons.mp hx with rfl | hx
    · exact ⟨y, List.mem_cons_self, hy⟩
    · obtain ⟨w, hw, he⟩ := ih hx
      exact ⟨w, List.mem_cons_of_mem y hw, he⟩

/-- A traversal fails as the first of its members that fails. -/
theorem mapM_eq_error_iff {f : α → Except ε β} {xs : List α} {e : ε} :
    xs.mapM f = .error e ↔ ∃ before x after, xs = before ++ x :: after ∧
      (∀ y ∈ before, ∃ z, f y = .ok z) ∧ f x = .error e := by
  induction xs with
  | nil => simp [pure, Except.pure]
  | cons x xs ih =>
    rw [List.mapM_cons, bind_eq_error_iff]
    constructor
    · rintro (hx | ⟨y, hy, h⟩)
      · exact ⟨[], x, xs, rfl, by simp, hx⟩
      · obtain ⟨before, z, after, rfl, hbefore, hz⟩ := ih.mp (bind_pure_eq_error_iff.mp h)
        exact ⟨x :: before, z, after, rfl, List.forall_mem_cons.mpr ⟨⟨y, hy⟩, hbefore⟩, hz⟩
    · rintro ⟨before, z, after, heq, hbefore, hz⟩
      cases before with
      | nil =>
        cases heq
        exact Or.inl hz
      | cons w before =>
        cases heq
        obtain ⟨⟨y, hy⟩, hbefore⟩ := List.forall_mem_cons.mp hbefore
        have hmore := ih.mpr ⟨before, z, after, rfl, hbefore, hz⟩
        exact Or.inr ⟨y, hy, bind_pure_eq_error_iff.mpr hmore⟩

/-- A traversal fails as one of its members does. -/
theorem exists_mem_of_mapM_eq_error {f : α → Except ε β} {xs : List α} {e : ε}
    (h : xs.mapM f = .error e) : ∃ x ∈ xs, f x = .error e := by
  obtain ⟨before, x, after, rfl, -, hx⟩ := mapM_eq_error_iff.mp h
  exact ⟨x, List.mem_append_cons_self, hx⟩

/-- A loop that fails does so in one of its rounds, with the state that the rounds before it
end in. -/
theorem exists_of_foldlM_eq_error {f : β → α → Except ε β} {xs : List α} {b : β} {e : ε}
    (h : xs.foldlM f b = .error e) : ∃ before x after b', xs = before ++ x :: after ∧
      before.foldlM f b = .ok b' ∧ f b' x = .error e := by
  induction xs generalizing b with
  | nil => cases h
  | cons x xs ih =>
    rw [List.foldlM_cons] at h
    rcases bind_eq_error_iff.mp h with hx | ⟨b', hb', h⟩
    · exact ⟨[], x, xs, b, rfl, rfl, hx⟩
    · obtain ⟨before, y, after, last, rfl, hbefore, hy⟩ := ih h
      refine ⟨x :: before, y, after, last, rfl, ?_, hy⟩
      rw [List.foldlM_cons]
      exact bind_eq_ok_iff.mpr ⟨b', hb', hbefore⟩

/-- Operations that agree on every member make the same traversal. -/
theorem mapM_congr {f g : α → Except ε β} {xs : List α} (h : ∀ x ∈ xs, f x = g x) :
    xs.mapM f = xs.mapM g := by
  induction xs with
  | nil => rfl
  | cons x xs ih =>
    rw [List.mapM_cons, List.mapM_cons, h x List.mem_cons_self,
      ih fun y hy => h y (List.mem_cons_of_mem x hy)]

section Renamed

variable {δ : Type} (rename : ε → δ)

/-- In a sequence of two operations the fault of either of them is renamed. -/
theorem mapError_bind (x : Except ε α) (f : α → Except ε β) :
    (x >>= f).mapError rename = x.mapError rename >>= fun a => (f a).mapError rename := by
  cases x with
  | ok a => rfl
  | error e => rfl

/-- In a traversal the fault of the member that fails is renamed. -/
theorem mapM_mapError (f : α → Except ε β) (xs : List α) :
    (xs.mapM fun x => (f x).mapError rename) = (xs.mapM f).mapError rename := by
  induction xs with
  | nil => rfl
  | cons x xs ih => simp only [List.mapM_cons, mapError_bind, ih]; rfl

end Renamed

/-- Two outcomes are the same fault, or results of which a relation holds. -/
inductive Alike {γ : Type} (R : α → β → Prop) : Except γ α → Except γ β → Prop
  /-- Results of which the relation holds. -/
  | ok {a : α} {b : β} (h : R a b) : Alike R (.ok a) (.ok b)
  /-- The same fault. -/
  | error (e : γ) : Alike R (.error e) (.error e)

/-- An outcome is like itself, with equal results. -/
theorem Alike.refl (x : Except ε α) : Alike (· = ·) x x := by
  cases x with
  | ok a => exact .ok rfl
  | error e => exact .error e

/-- Of two outcomes that are alike, both fail or none, and with the same fault. -/
theorem Alike.eq_error_iff {γ : Type} {R : α → β → Prop} {x : Except γ α} {y : Except γ β} {e : γ}
    (h : Alike R x y) : x = .error e ↔ y = .error e := by
  cases h with
  | ok h => exact ⟨nofun, nofun⟩
  | error e' => rw [Except.error.injEq, Except.error.injEq]

/-- Operations that go on alike from results that are alike end alike. -/
theorem Alike.bind {α' β' : Type} {R : α → β → Prop} {S : α' → β' → Prop} {x : Except ε α}
    {y : Except ε β} {f : α → Except ε α'} {g : β → Except ε β'} (h : Alike R x y)
    (hfg : ∀ a b, R a b → Alike S (f a) (g b)) : Alike S (x >>= f) (y >>= g) := by
  cases h with
  | ok h => exact hfg _ _ h
  | error e => exact .error e

end WebLinking
