import Mathlib.Order.Bounds.Basic
import WebLinking.Page
import WebLinking.Proofs.Checked
import WebLinking.Proofs.Number.Reading
import WebLinking.Proofs.Outcome

/-!
# Pages whose numbers agree

The count of pages is the least one that holds all elements. The counts of a page are there
together or not at all, because a count of elements brings the count of pages along: the
integer that is taken for a number before the fields are checked is the one that its field
is found to be.
-/

namespace WebLinking

/-- A character that is neither white space nor part of a numeral does not occur in a
literal. -/
theorem Decimal.not_mem_of_ofLiteral {t : Text} {i : Int} (h : ofLiteral t = .value i) {c : Char}
    (hspace : Text.isWhiteSpace c = false) (hsign : c ≠ '+' ∧ c ≠ '-')
    (hliteral : isLiteralChar c = false) : c ∉ t := by
  obtain ⟨before, sign, run, after, rfl, hbefore, hafter, hsigns, -, hrun, -⟩ :=
    exists_of_ofLiteral h
  intro hmem
  simp only [List.mem_append] at hmem
  rcases hmem with (hc | hc | hc) | hc
  · rw [hbefore c hc] at hspace
    cases hspace
  · rcases hsigns with rfl | rfl | rfl
    · cases hc
    · exact hsign.1 (List.mem_singleton.mp hc)
    · exact hsign.2 (List.mem_singleton.mp hc)
  · rw [hrun c hc] at hliteral
    cases hliteral
  · rw [hafter c hc] at hspace
    cases hspace

namespace Page

variable {fields : Fields} {page : Page}

private theorem ofLiteral_of_integerOfLiteral {t : Text} {unreadable : Rule} {i : Int}
    (h : integerOfLiteral t unreadable = .sound i) : Decimal.ofLiteral t = .value i := by
  unfold integerOfLiteral at h
  split at h
  · rename_i hvalue
    cases h
    exact hvalue
  · cases h
  · cases h

private theorem ofField_of_integerOfField {t : Text} {i : Int}
    (h : Value.integerOfField t = .sound i) : Decimal.ofField t = .value i := by
  unfold Value.integerOfField at h
  split at h
  · rename_i hvalue
    cases h
    exact hvalue
  · cases h
  · cases h

private theorem ofLiteral_of_integerOfOctets {content : Text} {i : Int}
    (h : integerOfOctets content = .sound i) : Decimal.ofLiteral content = .value i := by
  have hliteral := ofLiteral_of_integerOfLiteral h
  have hlatin : ∀ c ∈ content, c.toNat < 0x80 := by
    intro c hc
    by_contra hhigh
    refine Decimal.not_mem_of_ofLiteral (c := '?') hliteral (by decide) (by decide) (by decide) ?_
    exact List.mem_map.mpr ⟨c, hc, if_neg hhigh⟩
  have hsame : (content.map fun c => if c.toNat < 0x80 then c else '?') = content :=
    (List.map_congr_left fun c hc => if_pos (hlatin c hc)).trans (List.map_id content)
  rwa [hsame] at hliteral

/-- The integer that a value amounts to is the one that it is as a field. -/
theorem eq_of_integerOf_of_asInteger {value : Value} {i j : Int}
    (hraw : integerOf value = .ok (.sound i)) (hfield : value.asInteger = .sound j) : i = j := by
  cases value with
  | scalar s =>
    cases s with
    | bool b => exact Checked.sound.inj ((Except.ok.inj hraw).symm.trans hfield)
    | int k => exact Checked.sound.inj ((Except.ok.inj hraw).symm.trans hfield)
    | float x =>
      cases x with
      | nan => cases hraw
      | infinite negative => cases hraw
      | finite negative significand exponent =>
        rw [Value.asInteger, Value.integerOfFloat] at hfield
        split at hfield
        · cases hfield
        · dsimp only at hfield
          split at hfield
          · exact Checked.sound.inj ((Except.ok.inj hraw).symm.trans hfield)
          · cases hfield
    | text t =>
      exact (Decimal.eq_of_ofField_of_ofLiteral (ofField_of_integerOfField hfield)
        (ofLiteral_of_integerOfLiteral (Except.ok.inj hraw))).symm
  | unordered kind =>
    cases kind with
    | bytes content =>
      exact (Decimal.eq_of_ofField_of_ofLiteral (ofField_of_integerOfField hfield)
        (ofLiteral_of_integerOfOctets (Except.ok.inj hraw))).symm
    | byteBuffer content => cases hfield
    | set => cases hraw
    | fixedSet => cases hraw
  | null => cases hraw
  | member value => cases hraw
  | list items => cases hraw
  | tuple items => cases hraw
  | mapping entries => cases hraw
  | stream kind => cases hraw

end Page

/-- The count of pages is at most a number exactly if so many pages hold all elements. -/
theorem pageCount_le_iff {total size p : Int} (hsize : 0 < size) :
    pageCount total size ≤ p ↔ total ≤ p * size := by
  rw [pageCount, if_neg (Int.ne_of_gt hsize), Int.fdiv_eq_ediv_of_nonneg _ (Int.le_of_lt hsize)]
  calc
    -(-total / size) ≤ p ↔ -p ≤ -total / size := by omega
    _ ↔ -p * size ≤ -total := Int.le_ediv_iff_mul_le hsize
    _ ↔ total ≤ p * size := by rw [Int.neg_mul, Int.neg_le_neg_iff]

/-- Pages of size zero hold nothing, so none are counted. -/
theorem pageCount_zero (total : Int) : pageCount total 0 = 0 := if_pos rfl

/-- No count of pages is negative. -/
theorem pageCount_nonneg {total size : Int} (htotal : 0 ≤ total) (hsize : 0 ≤ size) :
    0 ≤ pageCount total size := by
  rcases eq_or_lt_of_le hsize with hzero | hpos
  · rw [← hzero, pageCount_zero]
  · by_contra hneg
    have hle : pageCount total size ≤ -1 := by omega
    have := (pageCount_le_iff hpos).mp hle
    omega

/-- A number is the count of pages exactly if it is the least one that holds all elements. -/
theorem eq_pageCount_iff {total size p : ℕ} (hsize : 0 < size) :
    (p : Int) = pageCount total size ↔ IsLeast {p : ℕ | total ≤ p * size} p := by
  have hle : ∀ q : ℕ, pageCount total size ≤ q ↔ total ≤ q * size := by
    intro q
    rw [pageCount_le_iff (by exact_mod_cast hsize)]
    exact_mod_cast Iff.rfl
  constructor
  · intro h
    refine ⟨(hle p).mp (le_of_eq h.symm), fun q hq => ?_⟩
    have := (hle q).mpr hq
    omega
  · rintro ⟨hp, hleast⟩
    obtain ⟨q, hq⟩ := Int.eq_ofNat_of_zero_le
      (pageCount_nonneg (Int.natCast_nonneg total) (Int.natCast_nonneg size))
    have hmem : total ≤ q * size := (hle q).mp (le_of_eq hq)
    have hpq : p ≤ q := hleast hmem
    have := (hle p).mpr hp
    omega

namespace Page

variable {fields : Fields} {page : Page}

/-- The numbers of a page are sound if each of them is. -/
theorem checkNumbers_eq_sound_iff {pages : Option Value} :
    checkNumbers fields pages = .sound page ↔
      Checked.required Value.asNatural (fields.get? "size".toList) = .sound page.size ∧
        Checked.required Value.asNatural (fields.get? "number".toList) = .sound page.number ∧
        Checked.optional Value.asNatural (fields.get? "total_elements".toList) =
          .sound page.totalElements ∧
        Checked.optional Value.asNatural pages = .sound page.totalPages := by
  simp only [checkNumbers, Checked.seq_eq_sound_iff, Checked.map_eq_sound_iff,
    Checked.inField_eq_sound_iff]
  constructor
  · rintro ⟨_, ⟨_, ⟨_, ⟨size, hsize, rfl⟩, number, hnumber, rfl⟩, elements, helements, rfl⟩, pages,
      hpages, rfl⟩
    exact ⟨hsize, hnumber, helements, hpages⟩
  · rintro ⟨hsize, hnumber, helements, hpages⟩
    exact ⟨_, ⟨_, ⟨_, ⟨_, hsize, rfl⟩, _, hnumber, rfl⟩, _, helements, rfl⟩, _, hpages, rfl⟩

/-- A count of pages agrees with the other numbers. -/
def Agrees (page : Page) : Prop :=
  ∀ pages, page.totalPages = some pages →
    ∃ elements, page.totalElements = some elements ∧ (pages : Int) = pageCount elements page.size

/-- A page passes the comparison of its numbers as it is. -/
theorem consistent_eq_sound_iff {page' : Page} :
    consistent page = .sound page' ↔ page' = page ∧ page.Agrees := by
  unfold consistent Agrees
  cases hpages : page.totalPages with
  | none => simp [eq_comm]
  | some pages =>
    cases helements : page.totalElements with
    | none => simp [Checked.refuse]
    | some elements =>
      dsimp only
      split
      · rename_i h
        simp [h, eq_comm]
      · rename_i h
        simp [h, Checked.refuse]

/-- Fields describe a page if the count of pages can be found, the numbers are sound and the
count agrees with them. -/
theorem ofFields_eq_ok_iff : ofFields fields = .ok page ↔
    ∃ pages, pagesField fields = .ok (.sound pages) ∧
      checkNumbers fields pages = .sound page ∧ page.Agrees := by
  unfold ofFields check
  rw [bind_eq_ok_iff]
  constructor
  · rintro ⟨checked, h, hsettle⟩
    obtain ⟨pages, hpages, h⟩ := bind_eq_ok_iff.mp h
    cases h
    obtain ⟨page', hnumbers, hconsistent⟩ :=
      Checked.andThen_eq_sound_iff.mp (Checked.settle_eq_ok_iff.mp hsettle)
    obtain ⟨pages, rfl, hnumbers⟩ := Checked.andThen_eq_sound_iff.mp hnumbers
    obtain ⟨rfl, hagrees⟩ := consistent_eq_sound_iff.mp hconsistent
    exact ⟨pages, hpages, hnumbers, hagrees⟩
  · rintro ⟨pages, hpages, hnumbers, hagrees⟩
    refine ⟨_, bind_eq_ok_iff.mpr ⟨_, hpages, rfl⟩, Checked.settle_eq_ok_iff.mpr ?_⟩
    exact Checked.andThen_eq_sound_iff.mpr
      ⟨page, Checked.andThen_eq_sound_iff.mpr ⟨pages, rfl, hnumbers⟩,
        consistent_eq_sound_iff.mpr ⟨rfl, hagrees⟩⟩

/-- A field is present if it is given another value than the absent one. -/
theorem present?_eq_some_iff {name : String} {value : Value} :
    present? fields name = some value ↔
      fields.get? name.toList = some value ∧ value.isNull = false := by
  unfold present?
  split
  · rename_i h
    rw [h]
    constructor
    · intro hnone
      cases hnone
    · rintro ⟨heq, hnull⟩
      cases heq
      cases hnull
  · rename_i h
    refine ⟨fun hgiven => ⟨hgiven, ?_⟩, And.left⟩
    cases value with
    | null => exact absurd hgiven h
    | _ => rfl

/-- A field is not present if it is not given or given the absent value. -/
theorem present?_eq_none_iff {name : String} :
    present? fields name = none ↔
      fields.get? name.toList = none ∨ fields.get? name.toList = some .null := by
  unfold present?
  split
  · rename_i h
    simp [h]
  · rename_i h
    exact ⟨Or.inl, fun hor => hor.resolve_right h⟩

/-- The count of pages is taken as it is given if there is one, or nothing to find it by. -/
theorem pagesField_of_given (h : (present? fields "total_pages").isSome ∨
    present? fields "total_elements" = none ∨ present? fields "size" = none) :
    pagesField fields = .ok (.sound (fields.get? "total_pages".toList)) := by
  unfold pagesField
  dsimp only
  split
  · rename_i hpages helements hsize
    rw [hpages, helements, hsize] at h
    simp at h
  · rfl

/-- The count of pages is found by the integers that the count of elements and the size amount
to. -/
theorem pagesField_eq_ok_iff (hpages : present? fields "total_pages" = none)
    {size elements : Value} (hsize : present? fields "size" = some size)
    (helements : present? fields "total_elements" = some elements) {pages : Option Value} :
    pagesField fields = .ok (.sound pages) ↔
      ∃ i j : Int, integerOf size = .ok (.sound i) ∧ integerOf elements = .ok (.sound j) ∧
        pages = if 0 ≤ i && 0 ≤ j then some (.int (pageCount j i))
          else fields.get? "total_pages".toList := by
  unfold pagesField
  rw [hpages, helements, hsize]
  dsimp only
  constructor
  · intro h
    obtain ⟨first, hfirst, h⟩ := bind_eq_ok_iff.mp h
    cases first with
    | flawed _ | halted _ => cases h
    | sound i =>
      obtain ⟨second, hsecond, h⟩ := bind_eq_ok_iff.mp h
      cases second with
      | flawed _ | halted _ => cases h
      | sound j =>
        refine ⟨i, j, hfirst, hsecond, ?_⟩
        dsimp only at h
        split at h <;> rename_i hsigns <;> cases h <;> simp only [hsigns] <;> rfl
  · rintro ⟨i, j, hfirst, hsecond, rfl⟩
    rw [hfirst, bind_eq_ok_iff]
    refine ⟨_, rfl, ?_⟩
    dsimp only
    rw [hsecond, bind_eq_ok_iff]
    refine ⟨_, rfl, ?_⟩
    dsimp only
    split <;> rfl

/-- The numbers of a page agree, and its counts are there together or not at all. -/
structure IsConsistent (page : Page) : Prop where
  /-- The count of pages is the one that follows from the other numbers. -/
  agrees : page.Agrees
  /-- Elements are counted if and only if pages are. -/
  isSome_eq : page.totalElements.isSome = page.totalPages.isSome

/-- A page whose elements are counted has a count of pages. -/
private theorem isSome_totalPages {pages : Option Value} {elements : Nat}
    (hpages : pagesField fields = .ok (.sound pages))
    (hnumbers : checkNumbers fields pages = .sound page)
    (helements : page.totalElements = some elements) : page.totalPages ≠ none := by
  obtain ⟨hsize, -, htotal, hcount⟩ := checkNumbers_eq_sound_iff.mp hnumbers
  obtain ⟨size, hgetSize, hsize⟩ := Checked.required_eq_sound_iff.mp hsize
  rw [helements] at htotal
  obtain ⟨total, hgetTotal, hnull, htotal⟩ := Checked.optional_eq_some_iff.mp htotal
  have hsize := Value.asNatural_eq_sound_iff.mp hsize
  have htotal := Value.asNatural_eq_sound_iff.mp htotal
  intro hnone
  rw [hnone] at hcount
  have habsent : present? fields "total_pages" = none := by
    cases hpresent : present? fields "total_pages" with
    | none => rfl
    | some given =>
      rw [pagesField_of_given (Or.inl (by rw [hpresent]; rfl))] at hpages
      cases hpages
      exact absurd (hpresent.symm.trans (present?_eq_none_iff.mpr
        (Checked.optional_eq_none_iff.mp hcount))) (by simp)
  have hpresentSize : present? fields "size" = some size :=
    present?_eq_some_iff.mpr ⟨hgetSize, by cases size <;> first | rfl | cases hsize⟩
  have hpresentTotal : present? fields "total_elements" = some total :=
    present?_eq_some_iff.mpr ⟨hgetTotal, hnull⟩
  obtain ⟨i, j, hi, hj, rfl⟩ := (pagesField_eq_ok_iff habsent hpresentSize hpresentTotal).mp hpages
  have hi' := eq_of_integerOf_of_asInteger hi hsize
  have hj' := eq_of_integerOf_of_asInteger hj htotal
  have hsigns : (0 ≤ i && 0 ≤ j) = true := by
    rw [hi', hj']
    simp
  rw [if_pos hsigns] at hcount
  rcases Checked.optional_eq_none_iff.mp hcount with h | h <;> cases h

/-- A page that fields describe is consistent. -/
theorem isConsistent_of_ofFields (h : ofFields fields = .ok page) : page.IsConsistent := by
  obtain ⟨pages, hpages, hnumbers, hagrees⟩ := ofFields_eq_ok_iff.mp h
  refine ⟨hagrees, ?_⟩
  cases helements : page.totalElements with
  | some elements =>
    exact (Option.isSome_iff_ne_none.mpr (isSome_totalPages hpages hnumbers helements)).symm
  | none =>
    cases hcount : page.totalPages with
    | none => rfl
    | some count =>
      obtain ⟨elements, hsome, -⟩ := hagrees count hcount
      rw [helements] at hsome
      cases hsome

/-- A consistent page is the one that its own fields describe. -/
theorem IsConsistent.ofFields_fields (h : page.IsConsistent) : ofFields page.fields = .ok page := by
  have hnat : ∀ n : Nat, (Value.nat n).asNatural = .sound n :=
    fun n => Value.asNatural_eq_sound_iff.mpr rfl
  have hcount : ∀ count : Option Nat,
      Checked.optional Value.asNatural (some (.ofNat? count)) = .sound count := by
    intro count
    cases count with
    | none => rfl
    | some n => exact Checked.optional_eq_some_iff.mpr ⟨_, rfl, rfl, hnat n⟩
  refine ofFields_eq_ok_iff.mpr ⟨some (.ofNat? page.totalPages), ?_, ?_, h.agrees⟩
  · refine pagesField_of_given ?_
    have hisSome := h.isSome_eq
    cases hpages : page.totalPages with
    | some pages =>
      refine Or.inl (Option.isSome_iff_exists.mpr ⟨.nat pages, present?_eq_some_iff.mpr ⟨?_, rfl⟩⟩)
      simp only [fields, hpages]
      rfl
    | none =>
      rw [hpages, Option.isSome_none, Option.isSome_eq_false_iff, Option.isNone_iff_eq_none]
        at hisSome
      refine Or.inr (Or.inl (present?_eq_none_iff.mpr (Or.inr ?_)))
      simp only [fields, hisSome]
      rfl
  · exact checkNumbers_eq_sound_iff.mpr ⟨hnat _, hnat _, hcount _, hcount _⟩

/-- In a consistent page with elements the count of pages is the least one that holds them all. -/
theorem IsConsistent.isLeast (h : page.IsConsistent) {elements pages : ℕ}
    (helements : page.totalElements = some elements) (hpages : page.totalPages = some pages) :
    (0 < page.size → IsLeast {p : ℕ | elements ≤ p * page.size} pages) ∧
      (page.size = 0 → pages = 0) := by
  obtain ⟨elements', helements', hcount⟩ := h.agrees pages hpages
  rw [helements] at helements'
  cases helements'
  refine ⟨fun hsize => (eq_pageCount_iff hsize).mp hcount, fun hzero => ?_⟩
  rw [hzero, Int.natCast_zero, pageCount_zero] at hcount
  exact_mod_cast hcount

/-- A number is below the count of pages exactly if so many pages do not hold all elements. -/
theorem IsConsistent.lt_totalPages_iff (h : page.IsConsistent) {elements pages : ℕ}
    (helements : page.totalElements = some elements) (hpages : page.totalPages = some pages)
    (hsize : 0 < page.size) {q : ℕ} : q < pages ↔ q * page.size < elements := by
  obtain ⟨hholds, hleast⟩ := (h.isLeast helements hpages).1 hsize
  constructor
  · intro hq
    by_contra hle
    have := hleast (Nat.le_of_not_lt hle)
    omega
  · intro hq
    by_contra hle
    have := Nat.mul_le_mul_right page.size (Nat.le_of_not_lt hle)
    have hholds : elements ≤ pages * page.size := hholds
    omega

/-- The numbers of every page agree: the count of pages is the least that holds all elements, and
tells the next page. -/
theorem ofFields_consistent (h : ofFields fields = .ok page) :
    (∃ size number, fields.get? "size".toList = some size ∧
        size.asInteger = .sound (page.size : Int) ∧
        fields.get? "number".toList = some number ∧
        number.asInteger = .sound (page.number : Int)) ∧
      page.totalElements.isSome = page.totalPages.isSome ∧
      (∀ elements pages, page.totalElements = some elements → page.totalPages = some pages →
        (0 < page.size → IsLeast {p : ℕ | elements ≤ p * page.size} pages) ∧
          (page.size = 0 → pages = 0)) ∧
      (page.hasNext = none ↔ page.totalElements = none) ∧
      (0 < page.size → (page.hasNext = some true ↔
        ∃ elements, page.totalElements = some elements ∧
          (page.number + 1) * page.size < elements)) ∧
      (page.size = 0 → page.totalElements.isSome → page.hasNext = some false) := by
  obtain ⟨pages, -, hnumbers, -⟩ := ofFields_eq_ok_iff.mp h
  obtain ⟨hsize, hnumber, -⟩ := checkNumbers_eq_sound_iff.mp hnumbers
  obtain ⟨size, hgetSize, hsize⟩ := Checked.required_eq_sound_iff.mp hsize
  obtain ⟨number, hgetNumber, hnumber⟩ := Checked.required_eq_sound_iff.mp hnumber
  have hconsistent := isConsistent_of_ofFields h
  have hboth := hconsistent.isSome_eq
  refine ⟨⟨size, number, hgetSize, Value.asNatural_eq_sound_iff.mp hsize, hgetNumber,
    Value.asNatural_eq_sound_iff.mp hnumber⟩, hboth,
    fun elements pages => hconsistent.isLeast, ?_, ?_, ?_⟩
  · rw [hasNext, Option.map_eq_none_iff, ← Option.isNone_iff_eq_none, ← Option.isNone_iff_eq_none,
      ← Option.not_isSome, ← Option.not_isSome, hboth]
  · intro hpos
    cases helements : page.totalElements with
    | none =>
      rw [helements, Option.isSome_none, eq_comm, Option.isSome_eq_false_iff,
        Option.isNone_iff_eq_none] at hboth
      simp [hasNext, hboth]
    | some elements =>
      rw [helements, Option.isSome_some, eq_comm, Option.isSome_iff_exists] at hboth
      obtain ⟨pages, hpages⟩ := hboth
      simp [hasNext, hpages, hconsistent.lt_totalPages_iff helements hpages hpos]
  · intro hzero hsome
    obtain ⟨elements, helements⟩ := Option.isSome_iff_exists.mp hsome
    rw [hsome, eq_comm, Option.isSome_iff_exists] at hboth
    obtain ⟨pages, hpages⟩ := hboth
    rw [hasNext, hpages, (hconsistent.isLeast helements hpages).2 hzero]
    rfl

/-- Numbers that are given as texts, a truth value and a floating-point number. -/
theorem ofFields_consistent_spellings :
    ∃ (fields : Fields) (page : Page),
      fields = [(.text "size".toList, .text " 2_0 ".toList),
        (.text "number".toList, .scalar (.bool true)),
        (.text "total_elements".toList, .scalar (.float (.finite false 41 0)))] ∧
      ofFields fields = .ok page ∧ page = ⟨20, 1, some 41, some 3⟩ ∧
      IsLeast {p : ℕ | 41 ≤ p * 20} 3 ∧ page.hasNext = some true ∧ (1 + 1) * 20 < 41 := by
  let fields : Fields := [(.text "size".toList, .text " 2_0 ".toList),
    (.text "number".toList, .scalar (.bool true)),
    (.text "total_elements".toList, .scalar (.float (.finite false 41 0)))]
  have hpage : ofFields fields = .ok ⟨20, 1, some 41, some 3⟩ := by decide +kernel
  obtain ⟨-, -, hleast, -, hnext, -⟩ := ofFields_consistent hpage
  exact ⟨fields, _, rfl, hpage, rfl, (hleast 41 3 rfl rfl).1 (by decide),
    (hnext (by decide)).mpr ⟨41, rfl, by decide⟩, by decide⟩

end Page

end WebLinking
