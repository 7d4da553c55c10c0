import WebLinking.Proofs.Page.Consistency

/-!
# Counts of pages that are derived

A count of pages that is left out is derived from the count of elements and the size. Fields
that describe a page with the count describe the same page without it, provided that both
numbers can be taken as integers before they are checked. Texts with a fraction of zeros are
numbers to a check and cannot be taken so; a page that is described by them with a count is
refused without it.
-/

namespace WebLinking.Page

variable {fields : Fields} {page : Page}

/-- Numbers that are integers to a check, given as integers, truth values or floating-point
numbers, are integers before it. -/
theorem integerOf_of_asInteger {s : Scalar} {i : Int} (h : (Value.scalar s).asInteger = .sound i)
    (htext : ∀ t, s ≠ .text t) : integerOf (.scalar s) = .ok (.sound i) := by
  cases s with
  | bool b => exact congrArg Except.ok h
  | int k => exact congrArg Except.ok h
  | float x =>
    cases x with
    | nan => cases h
    | infinite negative => cases h
    | finite negative significand exponent =>
      rw [Value.asInteger, Value.integerOfFloat] at h
      split at h
      · cases h
      · dsimp only at h
        split at h
        · exact congrArg Except.ok h
        · cases h
  | text t => exact absurd rfl (htext t)

/-- A page as its size, its number and its count of elements describe it. -/
structure Described (size number elements : Value) (page : Page) : Prop where
  /-- The size is the one that is given. -/
  size : size.asNatural = .sound page.size
  /-- The number is the one that is given. -/
  number : number.asNatural = .sound page.number
  /-- The count of elements is the one that is given, and the count of pages follows. -/
  counts : ∃ count pages : ℕ, elements.asNatural = .sound count ∧
    page.totalElements = some count ∧ page.totalPages = some pages ∧
      (pages : Int) = pageCount count page.size

/-- The size, the number and the count of elements describe one page at most. -/
theorem Described.unique {size number elements : Value} {page' : Page}
    (h : Described size number elements page) (h' : Described size number elements page') :
    page' = page := by
  obtain ⟨s, n, totalElements, totalPages⟩ := page
  obtain ⟨s', n', totalElements', totalPages'⟩ := page'
  obtain ⟨hsize, hnumber, count, pages, hcount, rfl, rfl, hpages⟩ := h
  obtain ⟨hsize', hnumber', count', pages', hcount', rfl, rfl, hpages'⟩ := h'
  cases hsize.symm.trans hsize'
  cases hnumber.symm.trans hnumber'
  cases hcount.symm.trans hcount'
  cases Int.ofNat_inj.mp (hpages'.trans hpages.symm)
  rfl

/-- Fields with a count of pages give all that describes a page. -/
theorem exists_described_of_given (hgiven : (present? fields "total_pages").isSome)
    (h : ofFields fields = .ok page) : ∃ size number elements,
      fields.get? "size".toList = some size ∧ fields.get? "number".toList = some number ∧
      fields.get? "total_elements".toList = some elements ∧ elements.isNull = false ∧
      Described size number elements page := by
  obtain ⟨pages, hpages, hnumbers, hagrees⟩ := ofFields_eq_ok_iff.mp h
  rw [pagesField_of_given (Or.inl hgiven)] at hpages
  cases hpages
  obtain ⟨hsize, hnumber, helements, hcount⟩ := checkNumbers_eq_sound_iff.mp hnumbers
  obtain ⟨size, hgetSize, hsize⟩ := Checked.required_eq_sound_iff.mp hsize
  obtain ⟨number, hgetNumber, hnumber⟩ := Checked.required_eq_sound_iff.mp hnumber
  cases hpages : page.totalPages with
  | none =>
    rw [hpages] at hcount
    rw [present?_eq_none_iff.mpr (Checked.optional_eq_none_iff.mp hcount)] at hgiven
    cases hgiven
  | some pages =>
    obtain ⟨count, hsome, hagree⟩ := hagrees pages hpages
    rw [hsome] at helements
    obtain ⟨elements, hgetElements, hnull, helements⟩ := Checked.optional_eq_some_iff.mp helements
    exact ⟨size, number, elements, hgetSize, hgetNumber, hgetElements, hnull, hsize, hnumber,
      count, pages, helements, hsome, hpages, hagree⟩

/-- Fields without a count of pages describe a page exactly if the size and the elements amount to
integers before. -/
theorem ofFields_eq_ok_iff_of_missing {size number elements : Value}
    (hmissing : present? fields "total_pages" = none)
    (hgetSize : fields.get? "size".toList = some size)
    (hgetNumber : fields.get? "number".toList = some number)
    (hgetElements : fields.get? "total_elements".toList = some elements)
    (hnull : elements.isNull = false) :
    ofFields fields = .ok page ↔
      (∃ i, integerOf size = .ok (.sound i)) ∧ (∃ j, integerOf elements = .ok (.sound j)) ∧
        Described size number elements page := by
  have hpresentElements : present? fields "total_elements" = some elements :=
    present?_eq_some_iff.mpr ⟨hgetElements, hnull⟩
  have hpresentSize : size.asNatural = .sound page.size → present? fields "size" = some size := by
    intro hsize
    refine present?_eq_some_iff.mpr ⟨hgetSize, ?_⟩
    cases size <;> first | rfl | cases hsize
  constructor
  · intro h
    have hconsistent := isConsistent_of_ofFields h
    obtain ⟨pages, hpages, hnumbers, hagrees⟩ := ofFields_eq_ok_iff.mp h
    obtain ⟨hsize, hnumber, helements, -⟩ := checkNumbers_eq_sound_iff.mp hnumbers
    rw [hgetSize] at hsize
    rw [hgetNumber] at hnumber
    rw [hgetElements] at helements
    obtain ⟨i, j, hi, hj, rfl⟩ :=
      (pagesField_eq_ok_iff hmissing (hpresentSize hsize) hpresentElements).mp hpages
    refine ⟨⟨i, hi⟩, ⟨j, hj⟩, hsize, hnumber, ?_⟩
    cases hsome : page.totalElements with
    | none =>
      rw [hsome] at helements
      rcases Checked.optional_eq_none_iff.mp helements with hnone | hnone <;> cases hnone
      cases hnull
    | some count =>
      have hcounted := hconsistent.isSome_eq
      rw [hsome, Option.isSome_some, eq_comm, Option.isSome_iff_exists] at hcounted
      obtain ⟨pages, hpages⟩ := hcounted
      rw [hsome] at helements
      obtain ⟨value, hvalue, -, hcount⟩ := Checked.optional_eq_some_iff.mp helements
      cases hvalue
      obtain ⟨count', hsome', hagree⟩ := hagrees pages hpages
      cases hsome.symm.trans hsome'
      exact ⟨count, pages, hcount, rfl, hpages, hagree⟩
  · rintro ⟨⟨i, hi⟩, ⟨j, hj⟩, hsize, hnumber, count, pages, helements, hsome, hpages, hagree⟩
    have hi' := eq_of_integerOf_of_asInteger hi (Value.asNatural_eq_sound_iff.mp hsize)
    have hj' := eq_of_integerOf_of_asInteger hj (Value.asNatural_eq_sound_iff.mp helements)
    refine ofFields_eq_ok_iff.mpr ⟨some (.int pages),
      (pagesField_eq_ok_iff hmissing (hpresentSize hsize) hpresentElements).mpr
        ⟨i, j, hi, hj, ?_⟩, checkNumbers_eq_sound_iff.mpr ⟨?_, ?_, ?_, ?_⟩, ?_⟩
    · rw [hi', hj', if_pos (by simp), hagree]
    · rwa [hgetSize]
    · rwa [hgetNumber]
    · rw [hsome]
      exact Checked.optional_eq_some_iff.mpr ⟨elements, hgetElements, hnull, helements⟩
    · rw [hpages]
      exact Checked.optional_eq_some_iff.mpr
        ⟨_, rfl, rfl, Value.asNatural_eq_sound_iff.mpr rfl⟩
    · intro pages' hpages'
      rw [hpages] at hpages'
      cases hpages'
      exact ⟨count, hsome, hagree⟩

/-- A count of pages may be left out exactly if the size and the count of elements amount to
integers before the check. -/
theorem ofFields_without_count {derived : Fields}
    (hgiven : (present? fields "total_pages").isSome) (h : ofFields fields = .ok page)
    (hmissing : present? derived "total_pages" = none)
    (hsame : ∀ name ∈ ["size", "number", "total_elements"],
      derived.get? name.toList = fields.get? name.toList) :
    ∃ size elements, fields.get? "size".toList = some size ∧
      fields.get? "total_elements".toList = some elements ∧
      (ofFields derived = .ok page ↔
        (∃ i, integerOf size = .ok (.sound i)) ∧ ∃ j, integerOf elements = .ok (.sound j)) ∧
      (∀ page', ofFields derived = .ok page' → page' = page) ∧
      ∀ s e : Scalar, size = .scalar s → elements = .scalar e → (∀ t, s ≠ .text t) →
        (∀ t, e ≠ .text t) → ofFields derived = .ok page := by
  obtain ⟨size, number, elements, hsize, hnumber, helements, hnull, hdescribed⟩ :=
    exists_described_of_given hgiven h
  simp only [List.forall_mem_cons, List.not_mem_nil, false_imp_iff, implies_true, and_true]
    at hsame
  obtain ⟨hsameSize, hsameNumber, hsameElements⟩ := hsame
  have hiff : ∀ page' : Page, ofFields derived = .ok page' ↔
      (∃ i, integerOf size = .ok (.sound i)) ∧ (∃ j, integerOf elements = .ok (.sound j)) ∧
        Described size number elements page' := fun _ =>
    ofFields_eq_ok_iff_of_missing hmissing (hsameSize.trans hsize) (hsameNumber.trans hnumber)
      (hsameElements.trans helements) hnull
  refine ⟨size, elements, hsize, helements, ?_, ?_, ?_⟩
  · rw [hiff]
    exact ⟨fun ⟨hi, hj, _⟩ => ⟨hi, hj⟩, fun ⟨hi, hj⟩ => ⟨hi, hj, hdescribed⟩⟩
  · intro page' h'
    exact hdescribed.unique ((hiff page').mp h').2.2
  · rintro s e rfl rfl hs he
    obtain ⟨count, -, hcount, -⟩ := hdescribed.counts
    have hi := integerOf_of_asInteger (Value.asNatural_eq_sound_iff.mp hdescribed.size) hs
    have hj := integerOf_of_asInteger (Value.asNatural_eq_sound_iff.mp hcount) he
    exact (hiff page).mpr ⟨⟨_, hi⟩, ⟨_, hj⟩, hdescribed⟩

/-- A size with a thousands mark, a floating-point count of elements, and a count of pages given as
absent. -/
theorem ofFields_without_count_absent :
    ∃ (fields derived : Fields) (page : Page),
      fields = [(.text "size".toList, .text "1_000".toList), (.text "number".toList, .nat 0),
        (.text "total_elements".toList, .scalar (.float (.finite false 2500 0))),
        (.text "total_pages".toList, .text "3.0".toList)] ∧
      derived = [(.text "size".toList, .text "1_000".toList), (.text "number".toList, .nat 0),
        (.text "total_elements".toList, .scalar (.float (.finite false 2500 0))),
        (.text "total_pages".toList, .null)] ∧
      (present? fields "total_pages").isSome ∧ present? derived "total_pages" = none ∧
      ofFields fields = .ok page ∧ page = ⟨1000, 0, some 2500, some 3⟩ ∧
      ofFields derived = .ok page := by
  let fields : Fields := [(.text "size".toList, .text "1_000".toList),
    (.text "number".toList, .nat 0),
    (.text "total_elements".toList, .scalar (.float (.finite false 2500 0))),
    (.text "total_pages".toList, .text "3.0".toList)]
  let derived : Fields := [(.text "size".toList, .text "1_000".toList),
    (.text "number".toList, .nat 0),
    (.text "total_elements".toList, .scalar (.float (.finite false 2500 0))),
    (.text "total_pages".toList, .null)]
  have hpage : ofFields fields = .ok ⟨1000, 0, some 2500, some 3⟩ := by decide +kernel
  have hgiven : (present? fields "total_pages").isSome := rfl
  have hmissing : present? derived "total_pages" = none := rfl
  have hsame : ∀ name ∈ ["size", "number", "total_elements"],
      derived.get? name.toList = fields.get? name.toList := by
    intro name hname
    simp only [List.mem_cons, List.not_mem_nil, or_false] at hname
    rcases hname with rfl | rfl | rfl <;> rfl
  obtain ⟨size, elements, hsize, helements, hiff, -, -⟩ :=
    ofFields_without_count hgiven hpage hmissing hsame
  cases hsize
  cases helements
  exact ⟨fields, derived, _, rfl, rfl, hgiven, hmissing, hpage, rfl,
    hiff.mpr ⟨⟨1000, rfl⟩, ⟨2500, rfl⟩⟩⟩

/-- A size with a fraction of zeros is one to the check, but without a count of pages it is
refused. -/
theorem exists_refused_without_count :
    ∃ fields : Fields,
      fields = [(.text "size".toList, .text "20.0".toList), (.text "number".toList, .nat 0),
        (.text "total_elements".toList, .nat 41)] ∧
      ofFields (fields ++ [(.text "total_pages".toList, .nat 3)]) =
        .ok ⟨20, 0, some 41, some 3⟩ ∧
      ofFields fields =
        .error (.invalid [⟨[], .broken (.unreadableLiteral "20.0".toList)⟩]) :=
  ⟨_, rfl, by decide +kernel, by decide +kernel⟩

end WebLinking.Page
