import WebLinking.Proofs.Representation.Building
import WebLinking.Representation.Step

/-!
# Changes of representations

A representation that has been built is changed in five ways: links are added, at once or on
a condition, links are removed, by relation or by a test, and elements without a type are
given one. A change either adds links at the end, or keeps some of the links in their order,
or touches the type of the elements only; one that fails does nothing. So the links stay an
ordered set however many changes follow each other, and everything else stays as it was
built.
-/

namespace WebLinking

/-- A change of a representation. -/
inductive Change where
  /-- Adds links. -/
  | add (links : List Link)
  /-- Adds links if a condition holds. -/
  | addIf (condition : Bool) (supply : Supply)
  /-- Removes the links of a relation, or all links. -/
  | removeLinks (rel : Option RelationInput)
  /-- Removes the links that pass a test. -/
  | removeIf (test : Link → Except Fault Bool)
  /-- Goes on with the representation whose elements have a type. -/
  | withFallbackType (elementType : ElementType)

/-- The links that a change brings along. -/
def Change.links : Change → List Link
  | .add links => links
  | .addIf _ supply => supply.links
  | .removeLinks _ | .removeIf _ | .withFallbackType _ => []

/-- The change that a step makes, if it is one of those that change links and nothing else. -/
def Change.ofStep? : Step → Option Change
  | .add links => some (.add links)
  | .addIf condition supply => some (.addIf condition supply)
  | .removeLinks rel => some (.removeLinks rel)
  | .removeIf test => some (.removeIf test.run)
  | _ => none

/-- The kind of a payload does not depend on the type of its elements. -/
theorem Payload.kind_withElementType (payload : Payload) (elementType : Option ElementType) :
    (payload.withElementType elementType).kind = payload.kind := by
  cases payload <;> rfl

namespace Representation

/-- Changes a representation. -/
def change (m : Representation) : Change → Except Fault Representation
  | .add links => .ok (m.add links)
  | .addIf condition supply => .ok (if condition then m.add supply.links else m)
  | .removeLinks rel => m.removeLinks rel
  | .removeIf test => m.removeIf test
  | .withFallbackType elementType => do return (← m.withFallbackType? elementType).getD m

/-- The representation that is at hand after a change; after one that fails it is the one
before. -/
def changed (m : Representation) (c : Change) : Representation :=
  match m.change c with
  | .ok m' => m'
  | .error _ => m

/-- The representation that is at hand after several changes, some of which may fail. -/
def changedAll (m : Representation) (cs : List Change) : Representation := cs.foldl changed m

/-- A step that changes links makes its change. -/
theorem after_eq_changed {step : Step} {c : Change} (h : Change.ofStep? step = some c)
    (m : Representation) : m.after step = m.changed c := by
  cases step with
  | add links =>
    cases h
    rfl
  | addIf condition supply =>
    cases h
    rfl
  | removeLinks rel =>
    cases h
    simp only [after, take, changed, change]
    cases m.removeLinks rel <;> rfl
  | removeIf test =>
    cases h
    simp only [after, take, changed, change]
    cases m.removeIf test.run <;> rfl
  | _ => cases h

/-- The links that do not pass a test are those that are kept, if the test fails on none. -/
theorem rejecting_eq_ok_iff {test : Link → Except Fault Bool} {links kept : List Link} :
    rejecting test links = .ok kept ↔
      ∃ passes : Link → Bool, (∀ l ∈ links, test l = .ok (passes l)) ∧
        kept = links.filter fun l => !passes l := by
  constructor
  · intro h
    refine ⟨fun l => (test l).toOption.getD false, ?_⟩
    induction links generalizing kept with
    | nil =>
      cases h
      exact ⟨by simp, rfl⟩
    | cons l links ih =>
      obtain ⟨passes, hl, h⟩ := bind_eq_ok_iff.mp h
      obtain ⟨more, hmore, h⟩ := bind_eq_ok_iff.mp h
      obtain ⟨hall, rfl⟩ := ih hmore
      cases h
      have hpasses : (test l).toOption.getD false = passes := by rw [hl]; rfl
      refine ⟨List.forall_mem_cons.mpr ⟨by simpa only [hpasses] using hl, hall⟩, ?_⟩
      simp only [List.filter_cons, hpasses]
      cases passes <;> rfl
  · rintro ⟨passes, hall, rfl⟩
    induction links with
    | nil => rfl
    | cons l links ih =>
      obtain ⟨hl, hmore⟩ := List.forall_mem_cons.mp hall
      rw [rejecting, hl, ih hmore, List.filter_cons]
      cases passes l <;> rfl

/-- A change adds links, keeps those that a function says, gives elements a type, or does
nothing. -/
theorem changed_cases (m : Representation) (c : Change) :
    m.changed c = m.add c.links ∨
      (∃ keep : Link → Bool, m.changed c = { m with links := m.links.filter keep }) ∨
        (∃ elementType, m.payload.elementType? = none ∧
          m.changed c = { m with payload := m.payload.withElementType (some elementType) }) ∨
          m.changed c = m := by
  cases hchange : m.change c with
  | error e =>
    have hsame : m.changed c = m := by rw [changed, hchange]
    exact Or.inr (Or.inr (Or.inr hsame))
  | ok m' =>
    have hchanged : m.changed c = m' := by rw [changed, hchange]
    rw [hchanged]
    cases c with
    | add links =>
      cases hchange
      exact Or.inl rfl
    | addIf condition supply =>
      cases hchange
      cases condition with
      | true => exact Or.inl rfl
      | false => exact Or.inr (Or.inr (Or.inr rfl))
    | removeLinks rel =>
      refine Or.inr (Or.inl ?_)
      cases rel with
      | none =>
        cases hchange
        exact ⟨fun _ => false, by rw [List.filter_false]⟩
      | some rel =>
        obtain ⟨r, -, h⟩ := bind_eq_ok_iff.mp hchange
        cases h
        exact ⟨_, rfl⟩
    | removeIf test =>
      obtain ⟨kept, hkept, h⟩ := bind_eq_ok_iff.mp hchange
      cases h
      obtain ⟨passes, -, rfl⟩ := rejecting_eq_ok_iff.mp hkept
      exact Or.inr (Or.inl ⟨_, rfl⟩)
    | withFallbackType elementType =>
      obtain ⟨typed, htyped, h⟩ := bind_eq_ok_iff.mp hchange
      cases h
      unfold withFallbackType? at htyped
      split at htyped
      · cases htyped
      · split at htyped
        · cases htyped
          exact Or.inr (Or.inr (Or.inr rfl))
        · rename_i htype
          cases htyped
          exact Or.inr (Or.inr (Or.inl ⟨elementType, Option.not_isSome_iff_eq_none.mp htype, rfl⟩))

/-- A change keeps links in their order and puts after them only links that were not there. -/
theorem exists_links_changed (m : Representation) (c : Change) :
    ∃ survivors added, (m.changed c).links = survivors ++ added ∧ survivors.Sublist m.links ∧
      ∀ l ∈ added, ∀ k ∈ m.links, k.sameAs l = false := by
  have hnone : ∀ survivors : List Link, survivors.Sublist m.links →
      (m.changed c).links = survivors → ∃ survivors added,
        (m.changed c).links = survivors ++ added ∧ survivors.Sublist m.links ∧
          ∀ l ∈ added, ∀ k ∈ m.links, k.sameAs l = false :=
    fun survivors hsub h => ⟨survivors, [], by rw [h, List.append_nil], hsub, by simp⟩
  rcases changed_cases m c with h | ⟨keep, h⟩ | ⟨elementType, -, h⟩ | h
  · obtain ⟨added, hadded, -, hnew⟩ := OrderedSet.exists_insertAll Link.sameAs m.links c.links
    refine ⟨m.links, added, ?_, List.Sublist.refl _, hnew⟩
    rw [h, ← hadded]
    rfl
  · exact hnone _ List.filter_sublist (by rw [h])
  · exact hnone _ (List.Sublist.refl _) (by rw [h])
  · exact hnone _ (List.Sublist.refl _) (by rw [h])

/-- No two links count as equal after a change if none did before it. -/
theorem pairwise_changed {m : Representation}
    (h : m.links.Pairwise fun k l => k.sameAs l = false) (c : Change) :
    (m.changed c).links.Pairwise fun k l => k.sameAs l = false := by
  rcases changed_cases m c with hc | ⟨keep, hc⟩ | ⟨elementType, -, hc⟩ | hc
  · rw [hc]
    exact OrderedSet.pairwise_insertAll h c.links
  · rw [hc]
    exact h.filter keep
  · rwa [hc]
  · rwa [hc]

/-- A representation has the same data as another one: they agree in everything but the links
and the type of the elements. -/
structure SameData (m m' : Representation) : Prop where
  /-- They say the same of their kind. -/
  label : m'.label = m.label
  /-- Their payloads differ in the type of the elements only. -/
  payload : ∃ elementType, m'.payload = m.payload.withElementType elementType

namespace SameData

variable {m m' m'' : Representation}

/-- A representation has its own data. -/
theorem refl (m : Representation) : SameData m m :=
  ⟨rfl, m.payload.elementType?, by cases m.payload <;> rfl⟩

/-- The same data as the same data are the same data. -/
theorem trans (h : SameData m m') (h' : SameData m' m'') : SameData m m'' := by
  obtain ⟨first, hfirst⟩ := h.payload
  obtain ⟨second, hsecond⟩ := h'.payload
  refine ⟨h'.label.trans h.label, second, ?_⟩
  rw [hsecond, hfirst]
  cases m.payload <;> rfl

/-- The kind is among the data. -/
theorem kind_eq (h : SameData m m') : m'.kind = m.kind := by
  obtain ⟨elementType, hpayload⟩ := h.payload
  rw [kind, kind, hpayload, Payload.kind_withElementType]

/-- The content is among the data. -/
theorem content_eq (h : SameData m m') : m'.content = m.content := by
  obtain ⟨elementType, hpayload⟩ := h.payload
  unfold content lacks
  rw [h.kind_eq, hpayload]
  cases m.payload <;> rfl

/-- The place of the page is among the data. -/
theorem page?_eq (h : SameData m m') : m'.page? = m.page? := by
  obtain ⟨elementType, hpayload⟩ := h.payload
  unfold page? lacks
  rw [h.kind_eq, hpayload]
  cases m.payload <;> rfl

end SameData

/-- A change keeps the data. -/
theorem sameData_changed (m : Representation) (c : Change) : SameData m (m.changed c) := by
  rcases changed_cases m c with h | ⟨keep, h⟩ | ⟨elementType, -, h⟩ | h
  · rw [h]
    exact ⟨rfl, (SameData.refl m).payload⟩
  · rw [h]
    exact ⟨rfl, (SameData.refl m).payload⟩
  · rw [h]
    exact ⟨rfl, some elementType, rfl⟩
  · rw [h]
    exact SameData.refl m

/-- What holds before several changes and is kept by each of them holds after them. -/
theorem changedAll_induction {P : Representation → Prop}
    (hstep : ∀ m c, P m → P (m.changed c)) {m : Representation} (hm : P m) (cs : List Change) :
    P (m.changedAll cs) := by
  induction cs generalizing m with
  | nil => exact hm
  | cons c cs ih => exact ih (hstep m c hm)

/-- However a representation is built and changed, no two of its links count as equal and each
change keeps their order. -/
theorem IsBuilt.links_changedAll {m : Representation} (hm : m.IsBuilt) (cs : List Change) :
    ((m.changedAll cs).links.Pairwise fun k l => k.sameAs l = false) ∧
      (m.changedAll cs).kind = m.kind ∧ (m.changedAll cs).label = m.label ∧
      (m.changedAll cs).content = m.content ∧ (m.changedAll cs).page? = m.page? ∧
      ∀ c, ∃ survivors added, ((m.changedAll cs).changed c).links = survivors ++ added ∧
        survivors.Sublist (m.changedAll cs).links ∧
          ∀ l ∈ added, ∀ k ∈ (m.changedAll cs).links, k.sameAs l = false := by
  have hdata : SameData m (m.changedAll cs) :=
    changedAll_induction (fun m' c h => h.trans (sameData_changed m' c)) (SameData.refl m) cs
  have hpairwise := changedAll_induction
    (P := fun m' => m'.links.Pairwise fun k l => k.sameAs l = false)
    (fun _ c h => pairwise_changed h c) hm.pairwise cs
  exact ⟨hpairwise, hdata.kind_eq, hdata.label, hdata.content_eq, hdata.page?_eq,
    exists_links_changed _⟩

/-- An empty collection with equal links, a test that fails on a malformed target and a removal
without a relation. -/
theorem links_changedAll_collection :
    ∃ (k l p q : Link) (m : Representation) (cs : List Change),
      k.sameAs l = true ∧ k ≠ l ∧ collection (.list []) [[k], [l, p]] .absent = .ok m ∧
      (m.change (.removeIf LinkTest.templated.run)).isOk = false ∧
      (m.change (.removeLinks (some (.raw (.text " ".toList))))).isOk = false ∧
      cs = [.removeIf LinkTest.templated.run, .add [l],
        .removeLinks (some (.raw (.text " ".toList))), .withFallbackType ⟨"Order".toList⟩,
        .addIf true (.deferred [q])] ∧
      (m.changedAll cs).links = [k, p, q] ∧
      ((m.changedAll cs).links.Pairwise fun k l => k.sameAs l = false) ∧
      (m.changedAll cs).kind = .collection ∧ (m.changedAll cs).content = m.content ∧
      ∃ survivors added, ((m.changedAll cs).changed (.removeIf
          (LinkTest.relation (.made Relation.self)).run)).links = survivors ++ added ∧
        survivors.Sublist [k, p, q] ∧ ∀ x ∈ added, ∀ y ∈ [k, p, q], y.sameAs x = false := by
  let k : Link := { href := "/a".toList, rel := ⟨"Next".toList⟩ }
  let l : Link := { href := "/a".toList, rel := Relation.next }
  let p : Link := { href := "/\x7b".toList, rel := Relation.self }
  let q : Link := { href := "/b".toList, rel := Relation.last }
  let m : Representation := assemble (.collection [] none) [[k], [l, p]]
  let cs : List Change := [.removeIf LinkTest.templated.run, .add [l],
    .removeLinks (some (.raw (.text " ".toList))), .withFallbackType ⟨"Order".toList⟩,
    .addIf true (.deferred [q])]
  have hbuilt : collection (.list []) [[k], [l, p]] .absent = .ok m := rfl
  have hlinks : (m.changedAll cs).links = [k, p, q] := by decide +kernel
  obtain ⟨hpairwise, hkind, -, hcontent, -, hnext⟩ :=
    IsBuilt.links_changedAll (.collection hbuilt) cs
  refine ⟨k, l, p, q, m, cs, by decide +kernel, by decide, hbuilt, by decide +kernel,
    by decide, rfl, hlinks, hpairwise, hkind, hcontent, ?_⟩
  rw [hlinks] at hnext
  exact hnext _

end Representation

end WebLinking
