import WebLinking.Proofs.Link.Header

/-!
# Parameters in any spelling

A parameter may be written with blanks around its name and its value, its name in any case,
and between two semicolons there may be nothing but blanks. None of this matters when an
element is read: what counts is, for the relation and for each attribute, the first value
under its name in small letters.
-/

namespace WebLinking

namespace Header

/-- Blanks, or nothing. -/
abbrev Blanks : Type := { t : Text // t.isBlankText = true }

/-- A word of letters, digits and hyphens. -/
abbrev Keyword : Type := { t : Text // t ≠ [] ∧ ∀ c ∈ t, c.isAlphanum = true ∨ c = '-' }

/-- A parameter as it is spelled. -/
structure Spelling where
  /-- The name, in any case. -/
  key : Keyword
  /-- The value, any text. -/
  value : Text
  /-- What stands before the name. -/
  beforeKey : Blanks
  /-- What stands between the name and the equals sign. -/
  afterKey : Blanks
  /-- What stands between the equals sign and the value. -/
  beforeValue : Blanks
  /-- What stands after the value. -/
  afterValue : Blanks

namespace Spelling

/-- The name in small letters. -/
def name (p : Spelling) : Text := Text.lower p.key.val

/-- A parameter with its value between quotation marks. -/
def text (p : Spelling) : Text :=
  p.beforeKey.val ++ p.key.val ++ p.afterKey.val ++
    '=' :: (p.beforeValue.val ++ quote p.value ++ p.afterValue.val)

/-- The first value under a name. -/
def first? (name : Text) (ps : List Spelling) : Option Text :=
  (ps.find? fun p => p.name == name).map value

end Spelling

/-- What stands after a semicolon. -/
inductive Slot where
  /-- A blank parameter. -/
  | blank (blanks : Blanks)
  /-- A parameter. -/
  | spelled (p : Spelling)

namespace Slot

/-- What is written in a slot. -/
def text : Slot → Text
  | .blank blanks => blanks.val
  | .spelled p => p.text

/-- The parameter in a slot. -/
def spelling? : Slot → Option Spelling
  | .blank _ => none
  | .spelled p => some p

end Slot

/-- The parameters in slots. -/
def spellings (slots : List Slot) : List Spelling := slots.filterMap Slot.spelling?

/-- An element of a header: a target between brackets, blanks, and slots each after a
semicolon. -/
def spell (href : Text) (gap : Blanks) (slots : List Slot) : Text :=
  '<' :: href ++ '>' :: (gap.val ++ slots.flatMap fun slot => ';' :: slot.text)

/-- Words are made of characters that are no blanks. -/
theorem Keyword.not_isBlank_of_mem {key : Keyword} {c : Char} (hmem : c ∈ key.val) :
    Text.isBlank c = false := by
  have hrange : 0x2D ≤ c.toNat ∧ c.toNat ≤ 0x7A := by
    rcases key.property.2 c hmem with hc | rfl
    · change (decide ('A'.val ≤ c.val ∧ c.val ≤ 'Z'.val) ||
        (decide ('a'.val ≤ c.val) && decide (c.val ≤ 'z'.val)) || c.isDigit) = true at hc
      simp only [Bool.or_eq_true, Bool.and_eq_true, decide_eq_true_eq, Char.isDigit_iff_toNat,
        UInt32.le_iff_toNat_le] at hc
      change ((65 ≤ c.toNat ∧ c.toNat ≤ 90) ∨ 97 ≤ c.toNat ∧ c.toNat ≤ 122) ∨
        48 ≤ c.toNat ∧ c.toNat ≤ 57 at hc
      omega
    · decide
  apply Bool.eq_false_iff.mpr
  simp only [Text.isBlank, Text.isWhiteSpace, ne_eq, Bool.or_eq_true, Bool.and_eq_true,
    decide_eq_true_eq, beq_iff_eq]
  omega

/-- Blanks around a value do not matter. -/
theorem unquote_append (before after : Blanks) (t : Text) :
    unquote (before.val ++ t ++ after.val) = unquote t := by
  rw [unquote, unquote, Text.trim_append before.property after.property]

namespace Spelling

variable (p : Spelling)

/-- A name is trimmed. -/
theorem trim_key : p.key.val.trim = p.key.val :=
  Text.trim_eq_self (fun _ hc => Keyword.not_isBlank_of_mem (List.mem_of_mem_head? hc))
    fun _ hc => Keyword.not_isBlank_of_mem (List.mem_of_mem_getLast? hc)

/-- Before the equals sign of a parameter there are blanks and characters of words only. -/
theorem plain_of_mem {c : Char} (hc : c ∈ p.beforeKey.val ++ p.key.val ++ p.afterKey.val) :
    c ∉ ['=', ';', '"', '<'] := by
  have hclass : Text.isBlank c = true ∨ c.isAlphanum = true ∨ c = '-' := by
    rcases List.mem_append.mp hc with hc | hc
    · rcases List.mem_append.mp hc with hc | hc
      · exact Or.inl (List.all_eq_true.mp p.beforeKey.property c hc)
      · exact Or.inr (p.key.property.2 c hc)
    · exact Or.inl (List.all_eq_true.mp p.afterKey.property c hc)
  intro hmark
  simp only [List.mem_cons, List.not_mem_nil, or_false] at hmark
  rcases hmark with rfl | rfl | rfl | rfl <;> revert hclass <;> decide

/-- A parameter is read as its name in small letters and its value. -/
theorem parameter_text : parameter p.text = (p.name, p.value) := by
  have hequals : '=' ∉ p.beforeKey.val ++ p.key.val ++ p.afterKey.val :=
    fun hmem => p.plain_of_mem hmem (by decide)
  simp only [parameter, text, Text.cutAt_append hequals, unquote_append, unquote_quote,
    Text.trim_append p.beforeKey.property p.afterKey.property, p.trim_key, name]

/-- Among parameters that are read, a name stands for the first value under it. -/
theorem lookup_map (name : Text) (ps : List Spelling) :
    (ps.map fun p => (p.name, p.value)).lookup name = first? name ps := by
  induction ps with
  | nil => rfl
  | cons p ps ih =>
    rw [List.map_cons, List.lookup_cons, first?, List.find?_cons, Bool.beq_comm]
    cases p.name == name with
    | true => rfl
    | false => exact ih

/-- There is no first value under a name that no parameter has. -/
theorem first?_eq_none_iff {name : Text} {ps : List Spelling} :
    first? name ps = none ↔ ∀ p ∈ ps, p.name ≠ name := by
  simp [first?]

/-- A parameter under another name, or after one under the same name, does not change the first
value. -/
theorem first?_append_cons {name : Text} {before after : List Spelling}
    (h : p.name ≠ name ∨ ∃ q ∈ before, q.name = p.name) :
    first? name (before ++ p :: after) = first? name (before ++ after) := by
  simp only [first?, List.find?_append, List.find?_cons]
  by_cases hname : p.name = name
  · obtain ⟨q, hq, hqp⟩ := h.resolve_left (not_not_intro hname)
    have hbefore : (before.find? fun p => p.name == name).isSome = true :=
      List.find?_isSome.mpr ⟨q, hq, beq_iff_eq.mpr (hqp.trans hname)⟩
    rw [Option.or_of_isSome hbefore, Option.or_of_isSome hbefore]
  · rw [beq_false_of_ne hname]

end Spelling

/-- Blanks are whole between semicolons. -/
theorem passes_blanks (blanks : Blanks) : Passes ';' .outside blanks.val .outside := by
  refine .of_plain fun c hc => ?_
  have hblank := List.all_eq_true.mp blanks.property c hc
  refine ⟨?_, ?_, ?_⟩ <;> rintro rfl <;> cases hblank

/-- A parameter is whole between semicolons. -/
theorem Spelling.passes_text (p : Spelling) : Passes ';' .outside p.text .outside := by
  have hname : Passes ';' .outside (p.beforeKey.val ++ p.key.val ++ p.afterKey.val) .outside := by
    refine .of_plain fun c hc => ?_
    have hplain := p.plain_of_mem hc
    simp only [List.mem_cons, List.not_mem_nil, or_false, not_or] at hplain
    exact hplain.2
  have hvalue : Passes ';' .outside (p.beforeValue.val ++ quote p.value ++ p.afterValue.val)
      .outside :=
    ((passes_blanks p.beforeValue).append rfl (passes_quote rfl p.value)).append rfl
      (passes_blanks p.afterValue)
  exact hname.append rfl (.cons (fun _ => by decide) hvalue)

/-- A parameter is not blank. -/
theorem Spelling.isBlankText_text (p : Spelling) : p.text.isBlankText = false := by
  refine Bool.eq_false_iff.mpr fun hall => ?_
  exact absurd (List.all_eq_true.mp hall '=' (by simp [text])) (by decide)

/-- What is written in a slot is whole between semicolons. -/
theorem Slot.passes_text (slot : Slot) : Passes ';' .outside slot.text .outside := by
  cases slot with
  | blank blanks => exact passes_blanks blanks
  | spelled p => exact p.passes_text

/-- Blank slots are left out, and the other ones are read as their parameters. -/
theorem map_parameter_slots (slots : List Slot) :
    ((slots.map Slot.text).filter fun t => !t.isBlankText).map parameter =
      (spellings slots).map fun p => (p.name, p.value) := by
  induction slots with
  | nil => rfl
  | cons slot slots ih =>
    cases slot with
    | blank blanks =>
      have hblank : Text.isBlankText (Slot.blank blanks).text = true := blanks.property
      rw [List.map_cons, List.filter_cons_of_neg (by simp [hblank]), ih]
      rfl
    | spelled p =>
      have htext : Text.isBlankText (Slot.spelled p).text = false := p.isBlankText_text
      rw [List.map_cons, List.filter_cons_of_pos (by simp [htext]), List.map_cons, ih]
      exact congrArg (· :: _) p.parameter_text

/-- The parameters in slots are read, each as its name in small letters and its value. -/
theorem parameters_slots (slots : List Slot) :
    parameters (slots.flatMap fun slot => ';' :: slot.text) =
      (spellings slots).map fun p => (p.name, p.value) := by
  have hwritten : (slots.flatMap fun slot => ';' :: slot.text) =
      (slots.map Slot.text).flatMap ([';'] ++ ·) := by
    rw [List.flatMap_map]
    rfl
  have hpasses : ∀ t ∈ slots.map Slot.text, Passes ';' .outside t .outside :=
    List.forall_mem_map.mpr fun slot _ => slot.passes_text
  rw [hwritten, parameters_of_passes hpasses, map_parameter_slots]

/-- The target of an element is found, and the slots after it. -/
theorem target?_spell {href : Text} (h : '>' ∉ href) (gap : Blanks) (slots : List Slot) :
    target? (spell href gap slots) = some (href, slots.flatMap fun slot => ';' :: slot.text) := by
  rw [spell, target?_brackets h,
    List.dropWhile_append_of_pos (List.all_eq_true.mp gap.property)]
  cases slots with
  | nil => rfl
  | cons slot slots => rfl

end Header

namespace Link

open Header

variable {href : Text} {gap : Blanks} {slots : List Slot}

private theorem ofElement_spell (hbracket : '>' ∉ href) (hne : href ≠ []) :
    ofElement (spell href gap slots) =
      if ((Spelling.first? "rel".toList (spellings slots)).getD []).isBlankText then
        .error (.malformedHeader (spell href gap slots) .noRelation)
      else .ok (build href ⟨((Spelling.first? "rel".toList (spellings slots)).getD []).trim⟩
        fun a => Spelling.first? a.key (spellings slots)) := by
  have hempty : ¬href.isEmpty = true := mt List.isEmpty_iff.mp hne
  rw [ofElement_of_target? (target?_spell hbracket gap slots), if_neg hempty]
  simp only [parameters_slots, Spelling.lookup_map]

private theorem isBlankText_first?_iff {ps : List Spelling} :
    ((Spelling.first? "rel".toList ps).getD []).isBlankText = true ↔
      (∀ p ∈ ps, p.name ≠ "rel".toList) ∨
        ∃ rel, Spelling.first? "rel".toList ps = some rel ∧ rel.isBlankText = true := by
  rw [← Spelling.first?_eq_none_iff]
  cases Spelling.first? "rel".toList ps with
  | none => simp [Text.isBlankText]
  | some rel => simp

/-- Elements of one target are read as the same link if the first values under the names that
links know are the same. -/
theorem ofElement_spell_eq_ok_iff (hbracket : '>' ∉ href) (hne : href ≠ []) {gap' : Blanks}
    {slots' : List Slot}
    (hrel : Spelling.first? "rel".toList (spellings slots) =
      Spelling.first? "rel".toList (spellings slots'))
    (hattributes : ∀ a : Attribute, Spelling.first? a.key (spellings slots) =
      Spelling.first? a.key (spellings slots')) {l : Link} :
    ofElement (spell href gap slots) = .ok l ↔ ofElement (spell href gap' slots') = .ok l := by
  rw [ofElement_spell hbracket hne, ofElement_spell hbracket hne, hrel, funext hattributes]
  split <;> simp

/-- An element in any spelling is read as the link of the first values under its names, or fails for
its relation. -/
theorem ofElement_spelled (href : Text) (hbracket : '>' ∉ href) (hne : href ≠ []) (gap : Blanks)
    (slots : List Slot) :
    (ofElement (spell href gap slots) =
        .error (.malformedHeader (spell href gap slots) .noRelation) ↔
      (∀ p ∈ spellings slots, p.name ≠ "rel".toList) ∨
        ∃ rel, Spelling.first? "rel".toList (spellings slots) = some rel ∧
          rel.isBlankText = true) ∧
    (∀ rel, Spelling.first? "rel".toList (spellings slots) = some rel →
      rel.isBlankText = false →
        ∃ l, ofElement (spell href gap slots) = .ok l ∧ l.href = href ∧ l.rel.value = rel.trim ∧
          ∀ a : Attribute, l.get a = Spelling.first? a.key (spellings slots)) ∧
    ∀ before p after, slots = before ++ .spelled p :: after →
      ((p.name ≠ "rel".toList ∧ ∀ a : Attribute, p.name ≠ a.key) ∨
        ∃ q ∈ spellings before, q.name = p.name) →
      ∀ l, ofElement (spell href gap slots) = .ok l ↔
        ofElement (spell href gap (before ++ after)) = .ok l := by
  refine ⟨?_, fun rel hrel hblank => ?_, ?_⟩
  · rw [← isBlankText_first?_iff, ofElement_spell hbracket hne]
    split
    · rename_i hblank
      exact iff_of_true rfl hblank
    · rename_i hblank
      exact iff_of_false (fun h => by cases h) hblank
  · refine ⟨build href ⟨rel.trim⟩ fun a => Spelling.first? a.key (spellings slots), ?_, rfl, rfl,
      fun a => by cases a <;> rfl⟩
    rw [ofElement_spell hbracket hne, hrel, Option.getD_some, hblank]
    rfl
  · rintro before p after rfl hidle l
    have hsame : ∀ name, (p.name ≠ name ∨ ∃ q ∈ spellings before, q.name = p.name) →
        Spelling.first? name (spellings (before ++ .spelled p :: after)) =
          Spelling.first? name (spellings (before ++ after)) := by
      intro name hname
      rw [spellings, spellings, List.filterMap_append, List.filterMap_append]
      exact p.first?_append_cons hname
    exact ofElement_spell_eq_ok_iff hbracket hne (hsame _ (hidle.imp_left And.left))
      fun a => hsame _ (hidle.imp_left fun h => h.2 a)

/-- Values with marks under names in several cases, a repeated title and an unknown name; and a
blank relation. -/
theorem ofElement_spelled_cases :
    ∃ (gap : Blanks) (title rel again other : Spelling) (blank : Slot),
      spell "/a;b".toList gap
          [.spelled title, blank, .spelled rel, .spelled again, .spelled other] =
        "</a;b>\t; TITLE=\"\\\";,=\\\\\" ; ;Rel = \" next \";title=\"\";x-1=\"\"".toList ∧
      (∃ l, ofElement (spell "/a;b".toList gap
          [.spelled title, blank, .spelled rel, .spelled again, .spelled other]) = .ok l ∧
        l.href = "/a;b".toList ∧ l.rel.value = "next".toList ∧
          l.get .title = some "\";,=\\".toList ∧ l.get .name = none ∧
        ofElement (spell "/a;b".toList gap [.spelled title, blank, .spelled rel]) = .ok l) ∧
      ofElement (spell "/a;b".toList gap [.spelled { rel with value := [] }, .spelled rel]) =
        .error (.malformedHeader
          (spell "/a;b".toList gap [.spelled { rel with value := [] }, .spelled rel])
          .noRelation) := by
  let no : Blanks := ⟨[], rfl⟩
  let one : Blanks := ⟨[' '], rfl⟩
  let title : Spelling := ⟨⟨"TITLE".toList, by simp⟩, "\";,=\\".toList, one, no, no, one⟩
  let rel : Spelling := ⟨⟨"Rel".toList, by simp⟩, " next ".toList, no, one, one, no⟩
  let again : Spelling := ⟨⟨"title".toList, by simp⟩, [], no, no, no, no⟩
  let other : Spelling := ⟨⟨"x-1".toList, by simp⟩, [], no, no, no, no⟩
  let front : List Slot := [.spelled title, .blank one, .spelled rel]
  have hbracket : '>' ∉ "/a;b".toList := by decide
  have hne : "/a;b".toList ≠ [] := by decide
  refine ⟨⟨['\t'], rfl⟩, title, rel, again, other, .blank one, by rfl, ?_, ?_⟩
  · obtain ⟨-, hread, hidle⟩ := ofElement_spelled _ hbracket hne ⟨['\t'], rfl⟩
      (front ++ [.spelled again, .spelled other])
    obtain ⟨-, -, hagain⟩ := ofElement_spelled _ hbracket hne ⟨['\t'], rfl⟩
      (front ++ [.spelled again])
    obtain ⟨l, hl, hhref, hrel, hattributes⟩ := hread " next ".toList (by decide) rfl
    refine ⟨l, hl, hhref, hrel, (hattributes .title).trans (by decide),
      (hattributes .name).trans (by decide), ?_⟩
    have hother := (hidle (front ++ [.spelled again]) other [] rfl
      (Or.inl ⟨by decide, fun a => by cases a <;> decide⟩) l).mp hl
    have htitle : title ∈ spellings front := List.mem_cons_self
    exact (hagain front again [] rfl (Or.inr ⟨title, htitle, by decide⟩) l).mp hother
  · exact (ofElement_spelled _ hbracket hne _ _).1.mpr (Or.inr ⟨[], by decide, rfl⟩)

end Link

end WebLinking
