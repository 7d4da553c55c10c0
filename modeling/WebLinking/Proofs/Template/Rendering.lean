import WebLinking.Proofs.Outcome
import WebLinking.Template.Rendering

/-!
# What rendering makes of a value

A value is looked at in two steps. First it is reduced to what is defined of it: a text,
the texts of the members that are there, or those of the entries that are there. Then the
variable writes this. A value of which nothing is defined renders nothing, whatever the
variable is.
-/

namespace WebLinking

/-- A defined value, without absent members and before encoding. -/
inductive Datum where
  /-- A value with a text of its own. -/
  | scalar (t : Text)
  /-- The members of a list, at least one. -/
  | members (items : List Text)
  /-- The keys and values of a mapping, at least one pair. -/
  | entries (pairs : List (Text × Text))
  deriving DecidableEq, Repr

/-- A composite value, unless it has no members. -/
def Datum.unlessEmpty {α : Type} (make : List α → Datum) (members : List α) : Option Datum :=
  if members.isEmpty then none else some (make members)

/-- A composite value that is there is made of at least one member. -/
theorem Datum.unlessEmpty_eq_some {α : Type} {make : List α → Datum} {members : List α}
    {d : Datum} (h : Datum.unlessEmpty make members = some d) :
    members ≠ [] ∧ d = make members := by
  unfold Datum.unlessEmpty at h
  split at h
  · cases h
  · rename_i hempty
    exact ⟨fun hnil => hempty (List.isEmpty_iff.mpr hnil), (Option.some.inj h).symm⟩

/-- Nothing is left when all members are absent. -/
theorem filter_eq_nil_of_all {α : Type} {absent : α → Bool} {xs : List α}
    (h : xs.all absent = true) : xs.filter (fun x => !absent x) = [] := by
  simpa [List.filter_eq_nil_iff] using h

namespace Value

/-- The text of a value, if it has one of its own. -/
def spelling : Value → Text
  | .scalar s => s.spelling?.getD []
  | .member value => (Scalar.memberSpelling? value).getD []
  | .stream kind => '<' :: kind.typeName ++ " object>".toList
  | _ => []

/-- What is defined of a value. Absent members, and entries with an absent value, count
as if they were not there. -/
def datum? : Value → Option Datum
  | .scalar s => some (.scalar (Value.scalar s).spelling)
  | .member value => some (.scalar (Value.member value).spelling)
  | .list items | .tuple items =>
    Datum.unlessEmpty .members ((items.filter fun item => !item.isNull).map spelling)
  | .mapping entries =>
    Datum.unlessEmpty .entries ((entries.filter fun entry => !entry.2.isNull).map fun entry =>
      (entry.1.spelling, entry.2.spelling))
  | _ => none

/-- A value counts as undefined: the absent value, and a list or mapping all of whose
members are absent. -/
def isUndefined : Value → Bool
  | .null => true
  | .list items | .tuple items => items.all isNull
  | .mapping entries => entries.all fun entry => entry.2.isNull
  | _ => false

/-- A value whose members have no order, or can be had only once. -/
def isUnordered : Value → Bool
  | .unordered _ | .stream _ => true
  | _ => false

/-- Nothing is defined of a value that counts as undefined or has no order. -/
theorem datum?_eq_none_iff {value : Value} :
    value.datum? = none ↔ value.isUndefined = true ∨ value.isUnordered = true := by
  cases value <;>
    simp [datum?, isUndefined, isUnordered, Datum.unlessEmpty, List.filter_eq_nil_iff]

end Value

private theorem writable_eq_ok_iff {o : Option Text} {t : Text} :
    writable o = .ok t ↔ o = some t := by
  cases o <;> simp [writable]

namespace Variable

/-- What a variable writes of a defined value. -/
def write (v : Variable) : Datum → Text
  | .scalar t => v.writeScalar t
  | .members items => v.writeItems items
  | .entries pairs => v.writePairs pairs

variable {v : Variable} {value : Value} {r : Option Text}

/-- The text of a member is its spelling. -/
theorem spelling_of_memberText {t : Text} (h : v.memberText value = .ok t) :
    value.spelling = t := by
  cases value with
  | scalar s => rw [Value.spelling, writable_eq_ok_iff.mp h, Option.getD_some]
  | member m => rw [Value.spelling, writable_eq_ok_iff.mp h, Option.getD_some]
  | stream kind => exact Except.ok.inj h
  | _ => cases h

private theorem spelling_of_pairTexts {entry : Value × Value} {pair : Text × Text}
    (h : v.pairTexts entry = .ok pair) : (entry.1.spelling, entry.2.spelling) = pair := by
  obtain ⟨key, hkey, h⟩ := bind_eq_ok_iff.mp h
  obtain ⟨value, hvalue, h⟩ := bind_eq_ok_iff.mp h
  rw [spelling_of_memberText hkey, spelling_of_memberText hvalue]
  exact Except.ok.inj h

private theorem eq_of_writeMembers {α : Type} (make : List α → Datum) {members : List α}
    (h : v.writeMembers (fun xs => v.write (make xs)) members = .ok r) :
    (Datum.unlessEmpty make members).map v.write = r := by
  unfold writeMembers at h
  unfold Datum.unlessEmpty
  by_cases hempty : members.isEmpty = true
  · rw [if_pos hempty] at h ⊢
    exact Except.ok.inj h
  · rw [if_neg hempty] at h ⊢
    split at h
    · cases h
    · exact Except.ok.inj h

private theorem eq_of_render_items {items : List Value}
    (h : (do v.writeMembers v.writeItems (← v.itemTexts items)) = .ok r) :
    (Value.list items).datum?.map v.write = r := by
  obtain ⟨texts, htexts, h⟩ := bind_eq_ok_iff.mp h
  rw [Value.datum?, map_eq_of_mapM_eq_ok htexts fun _ _ => spelling_of_memberText]
  exact eq_of_writeMembers .members h

/-- What a variable renders is what it writes of what is defined. -/
theorem map_write_of_render (h : v.render value = .ok r) : value.datum?.map v.write = r := by
  cases value with
  | null => exact Except.ok.inj h
  | scalar s =>
    obtain ⟨t, ht, h⟩ := bind_eq_ok_iff.mp h
    rw [Value.datum?, Value.spelling, writable_eq_ok_iff.mp ht]
    exact Except.ok.inj h
  | member m =>
    obtain ⟨t, ht, h⟩ := bind_eq_ok_iff.mp h
    rw [Value.datum?, Value.spelling, writable_eq_ok_iff.mp ht]
    exact Except.ok.inj h
  | list items => exact eq_of_render_items h
  | tuple items => exact eq_of_render_items h
  | mapping entries =>
    obtain ⟨pairs, hpairs, h⟩ := bind_eq_ok_iff.mp h
    rw [Value.datum?, map_eq_of_mapM_eq_ok hpairs fun _ _ => spelling_of_pairTexts]
    exact eq_of_writeMembers .entries h
  | unordered kind => cases h
  | stream kind => cases h

/-- A variable renders nothing exactly for the values that count as undefined. -/
theorem render_eq_none_iff : v.render value = .ok none ↔ value.isUndefined = true := by
  constructor
  · intro h
    have hdatum := Option.map_eq_none_iff.mp (map_write_of_render h)
    rcases Value.datum?_eq_none_iff.mp hdatum with hundefined | hunordered
    · exact hundefined
    · cases value with
      | unordered kind => cases h
      | stream kind => cases h
      | _ => cases hunordered
  · intro h
    cases value with
    | null => rfl
    | list items =>
      rw [render, itemTexts, filter_eq_nil_of_all h]
      rfl
    | tuple items =>
      rw [render, itemTexts, filter_eq_nil_of_all h]
      rfl
    | mapping entries =>
      rw [render, entryTexts, filter_eq_nil_of_all h]
      rfl
    | _ => cases h

end Variable

end WebLinking
