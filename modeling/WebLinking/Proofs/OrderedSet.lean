import Mathlib.Data.List.Forall2
import Mathlib.Data.List.Induction
import WebLinking.OrderedSet

/-!
# Members of ordered sets

Adding members to an ordered set keeps to those that are added: the members that are there
stay in front, and those that come after them are new, as they count as equal to none that was
there and to none that was to be added before them. No two members count as equal. A relation
that respects what counts as equal holds between the sets of members that it holds between; so
a function that does turns the set of some members into the set of its values.
-/

namespace WebLinking.OrderedSet

variable {α β : Type} {same : α → α → Bool}

/-- A member that is added goes to the end unless one that counts as equal is there. -/
theorem insert_cases (same : α → α → Bool) (members : List α) (x : α) :
    insert same members x = members ∨
      insert same members x = members ++ [x] ∧ ∀ y ∈ members, same y x = false := by
  unfold insert
  by_cases hany : members.any (same · x) = true
  · rw [if_pos hany]
    exact Or.inl rfl
  · rw [if_neg hany]
    refine Or.inr ⟨rfl, fun y hy => ?_⟩
    exact Bool.eq_false_iff.mpr fun h => hany (List.any_eq_true.mpr ⟨y, hy, h⟩)

/-- Members are added from the first one on. -/
theorem insertAll_cons (members : List α) (x : α) (new : List α) :
    insertAll same members (x :: new) = insertAll same (insert same members x) new := rfl

/-- Members that are added follow those that are there, in order, and none of them counts as
equal to one that is there. -/
theorem exists_insertAll (same : α → α → Bool) (members new : List α) :
    ∃ added, insertAll same members new = members ++ added ∧ added.Sublist new ∧
      ∀ x ∈ added, ∀ y ∈ members, same y x = false := by
  induction new generalizing members with
  | nil => exact ⟨[], (List.append_nil members).symm, List.Sublist.slnil, by simp⟩
  | cons x new ih =>
    obtain ⟨added, hadded, hsub, hnew⟩ := ih (insert same members x)
    rcases insert_cases same members x with hinsert | ⟨hinsert, hx⟩
    · rw [hinsert] at hadded hnew
      exact ⟨added, by rw [insertAll_cons, hinsert, hadded], hsub.cons x, hnew⟩
    · rw [hinsert] at hadded hnew
      refine ⟨x :: added, ?_, hsub.cons_cons x, List.forall_mem_cons.mpr ⟨hx, ?_⟩⟩
      · rw [insertAll_cons, hinsert, hadded, List.append_assoc, List.singleton_append]
      · exact fun z hz y hy => hnew z hz y (List.mem_append_left [x] hy)

/-- A member of a set was there or was added. -/
theorem mem_insertAll {members new : List α} {x : α} (h : x ∈ insertAll same members new) :
    x ∈ members ∨ x ∈ new := by
  obtain ⟨added, hadded, hsub, -⟩ := exists_insertAll same members new
  rw [hadded] at h
  exact (List.mem_append.mp h).imp_right fun hx => hsub.subset hx

/-- A member of the set of a list is a member of the list. -/
theorem mem_of_mem_ofList {xs : List α} {x : α} (h : x ∈ ofList same xs) : x ∈ xs :=
  (mem_insertAll h).resolve_left List.not_mem_nil

/-- Members that are added in two portions are added one after another. -/
theorem insertAll_append (members xs ys : List α) :
    insertAll same members (xs ++ ys) = insertAll same (insertAll same members xs) ys :=
  List.foldl_append

/-- A member that is added counts as equal to one that is there afterwards. -/
theorem exists_same_insert (hrefl : ∀ x, same x x = true) (members : List α) (x : α) :
    ∃ y ∈ insert same members x, same y x = true := by
  unfold insert
  by_cases hany : members.any (same · x) = true
  · rw [if_pos hany]
    exact List.any_eq_true.mp hany
  · rw [if_neg hany]
    exact ⟨x, List.mem_append_right members List.mem_cons_self, hrefl x⟩

/-- Every member that was there or is added counts as equal to one that is there afterwards. -/
theorem exists_same_insertAll (hrefl : ∀ x, same x x = true) {members new : List α} {x : α}
    (h : x ∈ members ++ new) : ∃ y ∈ insertAll same members new, same y x = true := by
  rcases List.mem_append.mp h with hold | hnew
  · obtain ⟨added, hadded, -⟩ := exists_insertAll same members new
    rw [hadded]
    exact ⟨x, List.mem_append_left added hold, hrefl x⟩
  · obtain ⟨before, after, rfl⟩ := List.append_of_mem hnew
    obtain ⟨y, hy, hsame⟩ := exists_same_insert hrefl (insertAll same members before) x
    rw [insertAll_append, insertAll_cons]
    obtain ⟨added, hadded, -⟩ :=
      exists_insertAll same (insert same (insertAll same members before) x) after
    rw [hadded]
    exact ⟨y, List.mem_append_left added hy, hsame⟩

/-- Every member of a list counts as equal to a member of its set. -/
theorem exists_same_of_mem (hrefl : ∀ x, same x x = true) {xs : List α} {x : α} (h : x ∈ xs) :
    ∃ y ∈ ofList same xs, same y x = true :=
  exists_same_insertAll hrefl (List.mem_append_right [] h)

/-- No two members count as equal if none did before members were added. -/
theorem pairwise_insertAll {members : List α} (h : members.Pairwise fun x y => same x y = false)
    (new : List α) : (insertAll same members new).Pairwise fun x y => same x y = false := by
  induction new generalizing members with
  | nil => exact h
  | cons x new ih =>
    refine ih ?_
    rcases insert_cases same members x with hinsert | ⟨hinsert, hx⟩
    · rwa [hinsert]
    · rw [hinsert, List.pairwise_append]
      refine ⟨h, List.pairwise_singleton _ x, fun y hy z hz => ?_⟩
      rw [List.mem_singleton.mp hz]
      exact hx y hy

/-- No two members of the set of a list count as equal. -/
theorem pairwise_ofList (xs : List α) : (ofList same xs).Pairwise fun x y => same x y = false :=
  pairwise_insertAll List.Pairwise.nil xs

/-- Members of which no two count as equal are all added. -/
theorem insertAll_of_pairwise {members new : List α}
    (h : (members ++ new).Pairwise fun x y => same x y = false) :
    insertAll same members new = members ++ new := by
  induction new generalizing members with
  | nil => exact (List.append_nil members).symm
  | cons x new ih =>
    have hx : members.any (same · x) = false := by
      rw [List.any_eq_false]
      intro y hy
      rw [(List.pairwise_append.mp h).2.2 y hy x List.mem_cons_self]
      exact Bool.false_ne_true
    have hinsert : insert same members x = members ++ [x] := by
      rw [insert, hx, if_neg Bool.false_ne_true]
    rw [← List.singleton_append, ← List.append_assoc] at h
    rw [insertAll_cons, hinsert, ih h, List.append_assoc, List.singleton_append]

/-- A list in which no two members count as equal is its own set. -/
theorem ofList_of_pairwise {xs : List α} (h : xs.Pairwise fun x y => same x y = false) :
    ofList same xs = xs :=
  insertAll_of_pairwise h

/-- The set of a set is the set itself. -/
theorem ofList_ofList (xs : List α) : ofList same (ofList same xs) = ofList same xs :=
  ofList_of_pairwise (pairwise_ofList xs)

/-- Members that are added are those of their own set that count as equal to none that was there. -/
theorem insertAll_eq_append_filter
    (htrans : ∀ x y z, same x y = true → same y z = true → same x z = true)
    (members new : List α) :
    insertAll same members new =
      members ++ (ofList same new).filter fun x => !members.any (same · x) := by
  induction new generalizing members with
  | nil => rw [ofList, insertAll, insertAll, List.foldl_nil, List.foldl_nil, List.filter_nil,
      List.append_nil]
  | cons x new ih =>
    have hfirst : ofList same (x :: new) =
        x :: (ofList same new).filter fun y => !same x y := by
      have hset : ofList same (x :: new) = insertAll same [x] new := rfl
      rw [hset, ih, List.singleton_append]
      simp only [List.any_cons, List.any_nil, Bool.or_false]
    rw [insertAll_cons, ih, hfirst, List.filter_cons, List.filter_filter]
    by_cases hthere : members.any (same · x) = true
    · -- What counts as equal to the first one counts as equal to one that was there.
      have hcovered : ∀ y, same x y = true → members.any (same · y) = true := by
        intro y hy
        obtain ⟨z, hz, hzx⟩ := List.any_eq_true.mp hthere
        exact List.any_eq_true.mpr ⟨z, hz, htrans z x y hzx hy⟩
      rw [insert, if_pos hthere, hthere, if_neg (by simp)]
      refine congrArg (members ++ ·) (List.filter_congr fun y _ => ?_)
      cases hxy : same x y with
      | false => rw [Bool.not_false, Bool.and_true]
      | true => rw [hcovered y hxy]; rfl
    · rw [insert, if_neg hthere, if_pos (by simpa using hthere), List.append_assoc]
      refine congrArg (members ++ x :: ·) (List.filter_congr fun y _ => ?_)
      rw [List.any_append, Bool.not_or]
      simp only [List.any_cons, List.any_nil, Bool.or_false]

/-- Nothing is added if each member counts as equal to one that is there. -/
theorem insertAll_of_forall_same {members new : List α}
    (h : ∀ x ∈ new, ∃ y ∈ members, same y x = true) : insertAll same members new = members := by
  induction new with
  | nil => rfl
  | cons x new ih =>
    obtain ⟨hx, hnew⟩ := List.forall_mem_cons.mp h
    rw [insertAll_cons, insert, if_pos (List.any_eq_true.mpr hx), ih hnew]

/-- Adding the same members once more changes nothing. -/
theorem insertAll_insertAll_self (hrefl : ∀ x, same x x = true) (members new : List α) :
    insertAll same (insertAll same members new) new = insertAll same members new :=
  insertAll_of_forall_same fun _ hx =>
    exists_same_insertAll hrefl (List.mem_append_right members hx)

/-- What counts as equal to a member afterwards counts as equal to one that was there or is
added, and conversely. -/
theorem any_insertAll (hrefl : ∀ x, same x x = true)
    (htrans : ∀ x y z, same x y = true → same y z = true → same x z = true)
    (members new : List α) (x : α) :
    (insertAll same members new).any (same · x) = (members ++ new).any (same · x) := by
  rw [Bool.eq_iff_iff, List.any_eq_true, List.any_eq_true]
  constructor
  · rintro ⟨y, hy, hyx⟩
    exact ⟨y, List.mem_append.mpr (mem_insertAll hy), hyx⟩
  · rintro ⟨y, hy, hyx⟩
    obtain ⟨z, hz, hzy⟩ := exists_same_insertAll hrefl hy
    exact ⟨z, hz, htrans z y x hzy hyx⟩

/-- The members of a list that count as equal to none that is there and to none before them in
the list. -/
def newcomers (same : α → α → Bool) (members new : List α) : List α :=
  (new.zipIdx.filter fun p => !(members ++ new.take p.2).any (same · p.1)).map Prod.fst

/-- The last member of a list is new if it counts as equal to none before it. -/
theorem newcomers_append_singleton (members new : List α) (x : α) :
    newcomers same members (new ++ [x]) = newcomers same members new ++
      if (members ++ new).any (same · x) then [] else [x] := by
  have hbefore : (new.zipIdx.filter fun p => !(members ++ (new ++ [x]).take p.2).any (same · p.1)) =
      new.zipIdx.filter fun p => !(members ++ new.take p.2).any (same · p.1) := by
    refine List.filter_congr fun p hp => ?_
    have hplace : p.2 ≤ new.length := by
      have hlt := List.snd_lt_of_mem_zipIdx hp
      omega
    rw [List.take_append_of_le_length hplace]
  rw [newcomers, List.zipIdx_append, List.filter_append, List.map_append, hbefore]
  refine congrArg (newcomers same members new ++ ·) ?_
  rw [List.zipIdx_singleton, Nat.zero_add, List.filter_singleton, List.take_left]
  cases (members ++ new).any (same · x) <;> rfl

/-- Members that are added are those that count as equal to none that was there or comes before
them. -/
theorem insertAll_eq_append_newcomers (hrefl : ∀ x, same x x = true)
    (htrans : ∀ x y z, same x y = true → same y z = true → same x z = true)
    (members new : List α) :
    insertAll same members new = members ++ newcomers same members new := by
  induction new using List.reverseRecOn with
  | nil => exact (List.append_nil members).symm
  | append_singleton new x ih =>
    have hlast : insertAll same members (new ++ [x]) =
        insert same (insertAll same members new) x := insertAll_append members new [x]
    rw [hlast, insert, any_insertAll hrefl htrans, newcomers_append_singleton, ih]
    split
    · rw [List.append_nil]
    · rw [List.append_assoc]

/-- The set of a list by equality is what is left when its repetitions are erased. -/
theorem ofList_eq_eraseDups [BEq α] [LawfulBEq α] (xs : List α) :
    ofList (· == ·) xs = xs.eraseDups := by
  induction xs using List.reverseRecOn with
  | nil => rfl
  | append_singleton xs x ih =>
    have hlast : ofList (· == ·) (xs ++ [x]) = insert (· == ·) xs.eraseDups x := by
      rw [← ih]
      exact insertAll_append [] xs [x]
    rw [hlast, List.eraseDups_append, insert, List.any_beq']
    by_cases hx : x ∈ xs
    · simp [hx, List.removeAll]
    · simp [hx, List.removeAll, List.eraseDups_cons]

section Related

variable {other : β → β → Bool} {R : α → β → Prop} {members : List α} {others : List β}

private theorem any_eq_of_rel
    (hsame : ∀ x y x' y', R x y → R x' y' → same x x' = other y y')
    (h : List.Forall₂ R members others) {x : α} {y : β} (hxy : R x y) :
    members.any (same · x) = others.any (other · y) := by
  induction h with
  | nil => rfl
  | cons hmember _ ih => rw [List.any_cons, List.any_cons, hsame _ _ _ _ hmember hxy, ih]

/-- Sets with related members stay so when related members are added, if the relation respects
what counts as equal. -/
theorem rel_insertAll (hsame : ∀ x y x' y', R x y → R x' y' → same x x' = other y y')
    (h : List.Forall₂ R members others) {new : List α} {new' : List β}
    (hnew : List.Forall₂ R new new') :
    List.Forall₂ R (insertAll same members new) (insertAll other others new') := by
  refine List.rel_foldl (fun xs ys hxs x y hxy => ?_) h hnew
  unfold insert
  rw [any_eq_of_rel hsame hxs hxy]
  split
  · exact hxs
  · exact List.rel_append hxs (.cons hxy .nil)

end Related

/-- The values of a set are the set of the values, if what counts as equal is respected. -/
theorem map_ofList {other : β → β → Bool} {f : α → β}
    (hf : ∀ x y, other (f x) (f y) = same x y) (xs : List α) :
    (ofList same xs).map f = ofList other (xs.map f) := by
  have hrel : List.Forall₂ (fun x y => f x = y) (ofList same xs) (ofList other (xs.map f)) := by
    refine rel_insertAll ?_ .nil ?_
    · rintro x _ x' _ rfl rfl
      exact (hf x x').symm
    · exact List.forall₂_map_right_iff.mpr (List.forall₂_same.mpr fun x _ => rfl)
  rwa [← List.forall₂_eq_eq_eq, List.forall₂_map_left_iff]

end WebLinking.OrderedSet
