import WebLinking.Proofs.Header.Quoting
import WebLinking.Proofs.Link.WellFormed

/-!
# Links in headers

The text of a link is its target between brackets and, after it, its relation and its
attributes as quoted parameters. A target ends at the first closing bracket, so a link is
read back from its text exactly if there is none in its target. Links that are read back
one by one are read back from a header that lists them, each relation word for word.
-/

namespace WebLinking

namespace Header

/-- A target between brackets is found up to its first closing bracket. -/
theorem target?_brackets {href : Text} (h : '>' ∉ href) (after : Text) :
    target? ('<' :: href ++ '>' :: after) = some (href, after.dropWhile Text.isBlank) := by
  have hfront : ('<' :: href ++ '>' :: after).dropWhile Text.isBlank =
      '<' :: (href ++ '>' :: after) := List.dropWhile_cons_of_neg (by decide)
  have hclose : (href ++ '>' :: after).contains '>' = true := by simp
  simp only [target?, hfront, hclose, ite_true, Text.cutAt_append h]

/-- No target has a closing bracket. -/
theorem not_mem_of_target?_eq_some {element href after : Text}
    (h : target? element = some (href, after)) : '>' ∉ href := by
  unfold target? at h
  split at h
  · split at h
    · cases h
      intro hmem
      simpa using List.mem_takeWhile_imp hmem
    · cases h
  · cases h

end Header

namespace Attribute

/-- Attributes are told apart by how they are written. -/
theorem key_injective : Function.Injective Attribute.key := by
  intro a b h
  have hfind : ∀ c : Attribute, Attribute.all.find? (·.key == c.key) = some c := by
    intro c
    cases c <;> rfl
  have hb := hfind b
  rw [← h, hfind a] at hb
  exact Option.some.inj hb

/-- No attribute is written as the relation is. -/
theorem key_ne_rel (a : Attribute) : a.key ≠ "rel".toList := by
  cases a <;> decide

/-- Attributes are written as parameter names are. -/
theorem isParameterName_key (a : Attribute) : Header.IsParameterName a.key := by
  cases a <;> decide

/-- Among entries for several attributes, each under how it is written, an attribute has the
entry that was made for it. -/
theorem lookup_filterMap_key (value : Attribute → Option Text) (as : List Attribute)
    (b : Attribute) :
    (as.filterMap fun a => (value a).map fun v => (a.key, v)).lookup b.key =
      if b ∈ as then value b else none := by
  induction as with
  | nil => rfl
  | cons a as ih =>
    by_cases hab : b = a
    · subst hab
      cases hvalue : value b with
      | none => simp [hvalue, ih]
      | some v => simp [hvalue]
    · have hkey : (b.key == a.key) = false := by simpa using fun h => hab (key_injective h)
      cases hvalue : value a with
      | none => simp [hvalue, ih, hab]
      | some v => simp [hvalue, List.lookup_cons, hkey, ih, hab]

end Attribute

namespace Link

/-- An element with a target is read as its parameters say, unless the relation is blank or
the target empty. -/
theorem ofElement_of_target? {element href after : Text}
    (htarget : Header.target? element = some (href, after)) :
    ofElement element =
      if ((Header.parameters after).lookup "rel".toList).getD [] |>.isBlankText then
        .error (.malformedHeader element .noRelation)
      else if href.isEmpty then .error (.malformedHeader element .emptyTarget)
      else .ok (build href ⟨(((Header.parameters after).lookup "rel".toList).getD []).trim⟩
        fun a => (Header.parameters after).lookup a.key) := by
  simp only [ofElement, htarget]
  by_cases hblank : ((Header.parameters after).lookup "rel".toList).getD [] |>.isBlankText
  · simp only [hblank, ite_true]
    rfl
  · by_cases hempty : href.isEmpty
    · simp only [hblank, hempty, ite_true]
      rfl
    · simp only [hblank, hempty]
      rfl

/-- An element is read as a link if it has a target and a relation that is not blank. -/
theorem ofElement_eq_ok_iff {element : Text} {l : Link} :
    ofElement element = .ok l ↔ ∃ after rel, Header.target? element = some (l.href, after) ∧
      l.href ≠ [] ∧ (Header.parameters after).lookup "rel".toList = some rel ∧
        Relation.ofText rel = .sound l.rel ∧
          ∀ a, (Header.parameters after).lookup a.key = l.get a := by
  constructor
  · intro h
    cases htarget : Header.target? element with
    | none =>
      rw [ofElement, htarget] at h
      cases h
    | some target =>
      obtain ⟨href, after⟩ := target
      rw [ofElement_of_target? htarget] at h
      split at h
      · cases h
      · rename_i hblank
        split at h
        · cases h
        · rename_i hempty
          cases h
          cases hrel : (Header.parameters after).lookup "rel".toList with
          | none =>
            rw [hrel] at hblank
            exact absurd rfl hblank
          | some rel =>
            rw [hrel, Option.getD_some, ← Text.trim_eq_nil_iff] at hblank
            refine ⟨after, rel, rfl, mt List.isEmpty_iff.mpr hempty, hrel, ?_, ?_⟩
            · exact Relation.ofText_eq_sound_iff.mpr ⟨⟨hblank, Text.trim_trim rel⟩, rfl⟩
            · intro a
              cases a <;> rfl
  · rintro ⟨after, rel, htarget, hhref, hlookup, hrel, hattributes⟩
    obtain ⟨hwellFormed, hvalue⟩ := Relation.ofText_eq_sound_iff.mp hrel
    have hblank : ¬rel.isBlankText = true := by
      rw [← Text.trim_eq_nil_iff, ← hvalue]
      exact hwellFormed.ne_nil
    have hempty : ¬l.href.isEmpty = true := mt List.isEmpty_iff.mp hhref
    rw [ofElement_of_target? htarget, hlookup, Option.getD_some, if_neg hblank, if_neg hempty,
      funext hattributes, ← hvalue]
    rfl

/-- The relation and the attributes of a link as parameters. -/
def headerParameters (l : Link) : List (Text × Text) :=
  ("rel".toList, l.rel.value) ::
    Attribute.all.filterMap fun a => (l.get a).map fun value => (a.key, value)

/-- The text of a link is its target and then its parameters. -/
theorem text_eq (l : Link) :
    l.text = '<' :: l.href ++ '>' ::
      l.headerParameters.flatMap fun p => ';' :: Header.writeParameter p := by
  have hattributes : ∀ as : List Attribute,
      (as.filterMap fun a => (l.get a).map fun value => a.key ++ '=' :: Header.quote value) =
        (as.filterMap fun a => (l.get a).map fun value => (a.key, value)).map
          Header.writeParameter := by
    intro as
    rw [List.map_filterMap]
    simp only [Option.map_map]
    rfl
  rw [text, headerParts, Text.joinWith_cons, hattributes, headerParameters, List.flatMap_cons,
    List.flatMap_cons, List.flatMap_map]
  simp [Header.writeParameter]

/-- The parameters of a link have names that are read as they are written. -/
theorem isParameterName_of_mem_headerParameters {l : Link} {p : Text × Text}
    (h : p ∈ l.headerParameters) : Header.IsParameterName p.1 := by
  rcases List.mem_cons.mp h with rfl | h
  · exact (by decide : Header.IsParameterName "rel".toList)
  · obtain ⟨a, -, hp⟩ := List.mem_filterMap.mp h
    obtain ⟨value, -, rfl⟩ := Option.map_eq_some_iff.mp hp
    exact a.isParameterName_key

/-- The parameters of a link have its relation. -/
theorem lookup_rel_headerParameters (l : Link) :
    l.headerParameters.lookup "rel".toList = some l.rel.value :=
  List.lookup_cons_self

/-- The parameters of a link have its attributes. -/
theorem lookup_key_headerParameters (l : Link) (a : Attribute) :
    l.headerParameters.lookup a.key = l.get a := by
  have hrel : (a.key == "rel".toList) = false := by simpa using a.key_ne_rel
  have hmem : a ∈ Attribute.all := by cases a <;> decide
  rw [headerParameters, List.lookup_cons, hrel]
  simp only [Attribute.lookup_filterMap_key, hmem, ite_true]

/-- A well-formed link without a closing bracket in its target is read back from its text. -/
theorem IsWellFormed.ofElement_text {l : Link} (hl : l.IsWellFormed) (h : '>' ∉ l.href) :
    ofElement l.text = .ok l := by
  have hparameters : Header.parameters
      (l.headerParameters.flatMap fun p => ';' :: Header.writeParameter p) =
        l.headerParameters :=
    Header.parameters_flatMap fun p => isParameterName_of_mem_headerParameters
  have htarget : Header.target? l.text = some (l.href,
      l.headerParameters.flatMap fun p => ';' :: Header.writeParameter p) := by
    rw [text_eq, Header.target?_brackets h]
    rfl
  refine ofElement_eq_ok_iff.mpr ⟨_, l.rel.value, htarget, hl.href, ?_, hl.rel.ofText_value, ?_⟩
  · rw [hparameters, lookup_rel_headerParameters]
  · intro a
    rw [hparameters, lookup_key_headerParameters]

/-- No text is read as a link with a closing bracket in its target. -/
theorem not_mem_href_of_ofElement {element : Text} {l : Link} (h : ofElement element = .ok l) :
    '>' ∉ l.href := by
  obtain ⟨after, rel, htarget, -⟩ := ofElement_eq_ok_iff.mp h
  exact Header.not_mem_of_target?_eq_some htarget

/-- Links that count as equal have one target. -/
theorem href_eq_of_sameAs {l m : Link} (h : l.sameAs m = true) : l.href = m.href := by
  have hnormal : l.normal = m.normal := eq_of_beq h
  change l.normal.href = m.normal.href
  rw [hnormal]

/-- Links that count as equal have relations that do. -/
theorem rel_sameAs_of_sameAs {l m : Link} (h : l.sameAs m = true) :
    l.rel.sameAs m.rel = true := by
  have hnormal : l.normal = m.normal := eq_of_beq h
  exact beq_iff_eq.mpr (congrArg (·.rel.value) hnormal)

/-- A well-formed link is read back from its text exactly if its target has no closing bracket. -/
theorem ofElement_text_iff (l : Link) (hl : l.IsWellFormed) :
    (ofElement l.text = .ok l ↔ '>' ∉ l.href) ∧
      ((∃ m, ofElement l.text = .ok m ∧ m.sameAs l = true) ↔ '>' ∉ l.href) := by
  refine ⟨⟨not_mem_href_of_ofElement, hl.ofElement_text⟩, ?_, fun h => ?_⟩
  · rintro ⟨m, hm, hsame⟩
    rw [← href_eq_of_sameAs hsame]
    exact not_mem_href_of_ofElement hm
  · exact ⟨l, hl.ofElement_text h, beq_self_eq_true _⟩

/-- Marks of every sort in the attributes, and a closing bracket in the target. -/
theorem ofElement_text_iff_marks :
    (∃ l : Link, l.IsWellFormed ∧ '>' ∉ l.href ∧
      l.text = "</a,b;c>;rel=\"Next \\\"1\\\"\";title=\"\\\\\\\";,<>\n\";name=\"\"".toList ∧
        ofElement l.text = .ok l) ∧
      ∃ l : Link, l.IsWellFormed ∧ '>' ∈ l.href ∧
        ¬∃ m, ofElement l.text = .ok m ∧ m.sameAs l = true := by
  let l : Link := {
    href := "/a,b;c".toList
    rel := ⟨"Next \"1\"".toList⟩
    title := some "\\\";,<>\n".toList
    name := some [] }
  let m : Link := { href := "/a>b".toList, rel := Relation.self }
  have hl : l.IsWellFormed := by decide
  have hm : m.IsWellFormed := by decide
  have hopen : '>' ∉ l.href := by decide
  have hclosed : '>' ∈ m.href := by decide
  refine ⟨⟨l, hl, hopen, rfl, (ofElement_text_iff l hl).1.mpr hopen⟩, m, hm, hclosed, ?_⟩
  exact fun h => (ofElement_text_iff m hm).2.mp h hclosed

/-- The text of a link without a closing bracket in its target is whole between commas. -/
theorem passes_text {l : Link} (h : '>' ∉ l.href) :
    Header.Passes ',' .outside l.text .outside := by
  have hparameters : Header.Passes ',' .outside
      (l.headerParameters.flatMap fun p => ';' :: Header.writeParameter p) .outside := by
    refine .flatMap rfl fun p hp => .cons (fun _ => by decide) ?_
    exact Header.passes_writeParameter (Or.inr rfl) (isParameterName_of_mem_headerParameters hp)
  have htarget : Header.Passes ',' .outside ('<' :: l.href ++ ['>']) .outside :=
    .of_brackets (by decide) h
  simpa only [text_eq, List.append_assoc, List.singleton_append] using
    htarget.append rfl hparameters

/-- The text of a link is not blank. -/
theorem isBlankText_text (l : Link) : l.text.isBlankText = false := by
  rw [text_eq]
  rfl

end Link

end WebLinking
