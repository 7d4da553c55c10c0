import WebLinking.Proofs.Outcome
import WebLinking.Proofs.Template.Grammar
import WebLinking.Proofs.Text.Splitting

/-!
# Reading one expression

What stands between two braces is read in three cuts: the operator at the front, the
commas, and the modifier at the end of each name. Each cut is exact: it accepts what the
grammar writes and gives back the written parts.
-/

namespace WebLinking

/-- The characters that occur in names. -/
def isNameChar (c : Char) : Bool := Variable.isWordChar c || c == '.' || c == '%'

private theorem isNameChar_of_isHexDigit {c : Char} (h : Text.isHexDigit c = true) :
    isNameChar c = true := by
  simp only [isNameChar, Variable.isWordChar, Text.isAlphanum_of_isHexDigit h, Bool.true_or]

private theorem IsVarchar.isNameChar_of_mem {u : Text} (hu : IsVarchar u) {c : Char}
    (hc : c ∈ u) : isNameChar c = true := by
  cases hu with
  | word h =>
    rw [List.mem_singleton.mp hc]
    simp only [isNameChar, h, Bool.true_or]
  | triplet ha hb =>
    simp only [List.mem_cons, List.not_mem_nil, or_false] at hc
    rcases hc with rfl | rfl | rfl
    · decide
    · exact isNameChar_of_isHexDigit ha
    · exact isNameChar_of_isHexDigit hb

/-- A name has no other characters than those of names. -/
theorem IsVarname.isNameChar_of_mem {n : Text} (hn : IsVarname n) {c : Char} (hc : c ∈ n) :
    isNameChar c = true := by
  induction hn with
  | single hu => exact hu.isNameChar_of_mem hc
  | cons hu _ ih => exact (List.mem_append.mp hc).elim hu.isNameChar_of_mem ih
  | dotted hu _ ih =>
    rcases List.mem_append.mp hc with hc | hc
    · exact hu.isNameChar_of_mem hc
    · rcases List.mem_cons.mp hc with rfl | hc
      · decide
      · exact ih hc

/-- A delimiter does not occur in a name. -/
theorem IsVarname.not_mem {n : Text} (hn : IsVarname n) {c : Char} (hc : isNameChar c = false) :
    c ∉ n := by
  intro hmem
  rw [hn.isNameChar_of_mem hmem] at hc
  exact Bool.noConfusion hc

private theorem IsVarchar.exists_head {u : Text} (hu : IsVarchar u) :
    ∃ c rest, u = c :: rest ∧ (Variable.isWordChar c || c == '%') = true := by
  cases hu with
  | @word c h => exact ⟨c, [], rfl, by rw [h, Bool.true_or]⟩
  | @triplet a b _ _ => exact ⟨'%', [a, b], rfl, by decide⟩

/-- A name begins with a word character or a percent sign. -/
theorem IsVarname.exists_head {n : Text} (hn : IsVarname n) :
    ∃ c rest, n = c :: rest ∧ (Variable.isWordChar c || c == '%') = true := by
  cases hn with
  | single hu => exact hu.exists_head
  | @cons u m hu _ =>
    obtain ⟨c, rest, rfl, hc⟩ := hu.exists_head
    exact ⟨c, rest ++ m, rfl, hc⟩
  | @dotted u m hu _ =>
    obtain ⟨c, rest, rfl, hc⟩ := hu.exists_head
    exact ⟨c, rest ++ '.' :: m, rfl, hc⟩

/-- A name is not empty. -/
theorem IsVarname.ne_nil {n : Text} (hn : IsVarname n) : n ≠ [] := by
  obtain ⟨c, rest, rfl, -⟩ := hn.exists_head
  exact List.cons_ne_nil c rest

namespace Varspec

/-- The numbers that are read after a colon are 1 to 9999, each from its own numeral. -/
theorem prefixLength?_eq_some_iff {t : Text} {n : Nat} :
    prefixLength? t = some n ↔ (1 ≤ n ∧ n ≤ 9999) ∧ Decimal.ofNat n = t := by
  constructor
  · intro h
    cases t with
    | nil => simp [prefixLength?] at h
    | cons c rest =>
      simp only [prefixLength?, Option.ite_none_right_eq_some, Bool.and_eq_true, bne_iff_ne, ne_eq,
        List.all_eq_true, decide_eq_true_eq] at h
      obtain ⟨⟨⟨⟨hc, hzero⟩, hrest⟩, hlength⟩, hvalue⟩ := h
      obtain ⟨m, hpos, hm⟩ := Decimal.exists_ofNat hc hzero hrest
      rw [← hm, Decimal.digitsFrom_ofNat, Option.some.injEq] at hvalue
      subst hvalue
      have hbound : m < 10 ^ 4 := by
        rw [← Decimal.length_ofNat_le_iff (by decide), hm, List.length_cons]
        omega
      exact ⟨⟨hpos, by omega⟩, hm⟩
  · rintro ⟨⟨hlow, hhigh⟩, rfl⟩
    have hlength := (Decimal.length_ofNat_le_iff (k := 4) (by decide)).mpr
      (show n < 10 ^ 4 by omega)
    have hzero := Decimal.head?_ofNat_ne_zero hlow
    have hdigits := fun c => Decimal.isDigit_of_mem_ofNat (n := n) (c := c)
    have hvalue := Decimal.digitsFrom_ofNat n
    cases he : Decimal.ofNat n with
    | nil => exact absurd he Nat.toDigits_ne_nil
    | cons c rest =>
      rw [he] at hlength hzero hdigits hvalue
      have hrest : rest.all Char.isDigit = true :=
        List.all_eq_true.mpr fun d hd => hdigits d (List.mem_cons_of_mem c hd)
      have hc : (c != '0') = true := bne_iff_ne.mpr fun h => hzero (congrArg some h)
      have hshort : rest.length ≤ 3 := by
        rw [List.length_cons] at hlength
        omega
      simp [prefixLength?, hdigits c List.mem_cons_self, hc, hrest, hshort, hvalue]

/-- What is read is what is written, with a modifier that follows the grammar. -/
theorem text_of_read? {t : Text} {spec : Varspec} (h : read? t = some spec) :
    spec.text = t ∧ (∀ n, spec.maxLength = some n → 1 ≤ n ∧ n ≤ 9999) ∧
      (spec.explode = true → spec.maxLength = none) := by
  unfold read? at h
  split at h
  · rename_i hstar
    cases h
    obtain ⟨before, rfl⟩ := List.getLast?_eq_some_iff.mp hstar
    simp [text]
  · split at h
    · rename_i hcolon
      simp only [Option.map_eq_some_iff] at h
      obtain ⟨n, hn, rfl⟩ := h
      obtain ⟨hbounds, hnumeral⟩ := prefixLength?_eq_some_iff.mp hn
      refine ⟨?_, fun m hm => by cases hm; exact hbounds, fun he => Bool.noConfusion he⟩
      simp only [text, Bool.false_eq_true, ite_false, hnumeral]
      exact (Text.eq_of_cutAt (List.contains_iff_mem.mp hcolon)).symm
    · cases h
      simp [text]

/-- What the grammar writes is read back. -/
theorem read?_text {spec : Varspec} (h : spec.IsWellFormed) : read? spec.text = some spec := by
  obtain ⟨name, explode, maxLength⟩ := spec
  have hstar : '*' ∉ name := h.name.not_mem (by decide)
  have hcolon : ':' ∉ name := h.name.not_mem (by decide)
  cases explode with
  | true =>
    have hnone : maxLength = none := h.exclusive rfl
    simp [text, read?, hnone]
  | false =>
    cases maxLength with
    | none =>
      have hlast : name.getLast? ≠ some '*' := fun he => hstar (List.mem_of_getLast? he)
      simp [text, read?, hlast, hcolon]
    | some n =>
      have hlast : (name ++ ':' :: Decimal.ofNat n).getLast? ≠ some '*' := by
        intro he
        rcases List.mem_append.mp (List.mem_of_getLast? he) with hmem | hmem
        · exact hstar hmem
        · rcases List.mem_cons.mp hmem with hmem | hmem
          · exact absurd hmem (by decide)
          · exact absurd (Decimal.isDigit_of_mem_ofNat hmem) (by decide)
      have hlength : prefixLength? (Decimal.ofNat n) = some n :=
        prefixLength?_eq_some_iff.mpr ⟨h.bounds n rfl, rfl⟩
      simp only [text, read?, Bool.false_eq_true, ite_false, hlast, Text.cutAt_append hcolon,
        hlength]
      simp

/-- What the grammar writes between commas has characters of names and of modifiers only. -/
theorem not_mem_text {spec : Varspec} (h : spec.IsWellFormed) {c : Char}
    (hc : isNameChar c = false) (hstar : c ≠ '*') (hcolon : c ≠ ':') : c ∉ spec.text := by
  obtain ⟨name, explode, maxLength⟩ := spec
  have hname : c ∉ name := h.name.not_mem hc
  cases explode with
  | true => simp [text, hname, hstar]
  | false =>
    cases maxLength with
    | none => simpa [text] using hname
    | some n =>
      have hdigits : c ∉ Decimal.ofNat n := by
        intro hmem
        have hword : Variable.isWordChar c = true := by
          simp [Variable.isWordChar, Char.isAlphanum, Decimal.isDigit_of_mem_ofNat hmem]
        simp [isNameChar, hword] at hc
      simp [text, hname, hcolon, hdigits]

/-- The variable has the operator that the expression has. -/
@[simp] theorem toVariable_operator (spec : Varspec) (operator : Operator) :
    (spec.toVariable operator).operator = operator := by
  unfold toVariable Variable.operator
  cases operator <;> cases spec.explode <;> rfl

/-- The variable is written as it was read. -/
@[simp] theorem spec_toVariable (spec : Varspec) (operator : Operator) :
    (spec.toVariable operator).spec = spec := by
  obtain ⟨name, explode, maxLength⟩ := spec
  cases operator <;> cases explode <;> rfl

end Varspec

/-- A variable is written as its name and modifier are. -/
theorem Variable.varspec_eq (v : Variable) : v.varspec = v.spec.text := rfl

namespace Operator

/-- An operator is found by the way it is written. -/
theorem ofKey?_key (operator : Operator) : ofKey? operator.key = some operator := by
  cases operator <;> rfl

/-- Only its own way of writing finds an operator. -/
theorem key_of_ofKey? {key : Text} {operator : Operator} (h : ofKey? key = some operator) :
    operator.key = key := by
  simpa only [beq_iff_eq] using List.find?_some h

/-- The characters at which names begin write no operator. -/
theorem ofKey?_eq_none {c : Char} (h : (Variable.isWordChar c || c == '%') = true) :
    ofKey? [c] = none := by
  refine Option.eq_none_iff_forall_ne_some.mpr fun operator he => ?_
  have hkey := key_of_ofKey? he
  cases operator <;> simp only [key, List.cons.injEq, and_true, reduceCtorEq] at hkey <;>
    subst hkey <;> revert h <;> decide

/-- The characters at which names begin are not kept for future extensions. -/
theorem futureSymbols_contains {c : Char} (h : (Variable.isWordChar c || c == '%') = true) :
    futureSymbols.contains c = false := by
  refine Bool.eq_false_iff.mpr fun hc => ?_
  simp only [futureSymbols, List.contains_eq_mem, List.mem_cons, List.not_mem_nil, or_false,
    decide_eq_true_eq] at hc
  rcases hc with rfl | rfl | rfl | rfl | rfl <;> revert h <;> decide

end Operator

namespace Group

private theorem key_append_of_splitOperator (symbol : Char) (rest : Text) :
    (splitOperator symbol rest).1.key ++ (splitOperator symbol rest).2 = symbol :: rest := by
  unfold splitOperator
  split
  · rename_i operator h
    rw [Operator.key_of_ofKey? h, List.singleton_append]
  · rfl

/-- A variable is read exactly from what the grammar writes for it. -/
theorem readVariable_eq_ok_iff {operator : Operator} {expression t : Text} {position : Nat}
    {v : Variable} :
    readVariable operator expression position t = .ok v ↔
      ∃ spec : Varspec, spec.IsWellFormed ∧ spec.text = t ∧ spec.toVariable operator = v := by
  constructor
  · intro h
    unfold readVariable at h
    split at h
    · cases h
    · rename_i spec hread
      split at h
      · cases h
      · split at h
        · rename_i hname
          obtain ⟨htext, hbounds, hexclusive⟩ := Varspec.text_of_read? hread
          cases h
          exact ⟨spec, ⟨(isName_iff _).mp hname, hbounds, hexclusive⟩, htext, rfl⟩
        · cases h
  · rintro ⟨spec, hspec, rfl, rfl⟩
    have hname : Variable.isName spec.name = true := (isName_iff _).mpr hspec.name
    have hne : spec.name.isEmpty = false := List.isEmpty_eq_false_iff.mpr hspec.name.ne_nil
    simp [readVariable, Varspec.read?_text hspec, hname, hne]

private theorem specs_of_readVariables {operator : Operator} {expression : Text} {position : Nat}
    {pieces : List Text} {vars : List Variable}
    (h : List.Forall₂ (fun t v => readVariable operator expression position t = .ok v)
      pieces vars) :
    ∃ specs : List Varspec, (∀ spec ∈ specs, spec.IsWellFormed) ∧
      specs.map Varspec.text = pieces ∧
      (specs.map fun spec => spec.toVariable operator) = vars := by
  induction h with
  | nil => exact ⟨[], by simp⟩
  | cons hv _ ih =>
    obtain ⟨spec, hspec, rfl, rfl⟩ := readVariable_eq_ok_iff.mp hv
    obtain ⟨specs, hspecs, rfl, rfl⟩ := ih
    exact ⟨spec :: specs, List.forall_mem_cons.mpr ⟨hspec, hspecs⟩, rfl, rfl⟩

private theorem exists_head_of_specs {specs : List Varspec} (hne : specs ≠ [])
    (h : ∀ spec ∈ specs, spec.IsWellFormed) :
    ∃ c rest, Text.joinWith [','] (specs.map Varspec.text) = c :: rest ∧
      (Variable.isWordChar c || c == '%') = true := by
  obtain ⟨spec, more, rfl⟩ := List.exists_cons_of_ne_nil hne
  obtain ⟨c, rest, hname, hc⟩ := (h spec List.mem_cons_self).name.exists_head
  have htext : ∃ modifier, spec.text = c :: (rest ++ modifier) := by
    unfold Varspec.text
    rw [hname]
    split
    · exact ⟨_, rfl⟩
    · split
      · exact ⟨_, rfl⟩
      · exact ⟨[], by rw [List.append_nil]⟩
  obtain ⟨modifier, htext⟩ := htext
  refine ⟨c, (rest ++ modifier) ++ (more.map Varspec.text).flatMap ([','] ++ ·), ?_, hc⟩
  rw [List.map_cons, Text.joinWith_cons, htext, List.cons_append]

private theorem splitOperator_of_specs (operator : Operator) {specs : List Varspec}
    (hne : specs ≠ []) (h : ∀ spec ∈ specs, spec.IsWellFormed) :
    ∃ symbol rest, operator.key ++ Text.joinWith [','] (specs.map Varspec.text) = symbol :: rest ∧
      Operator.futureSymbols.contains symbol = false ∧
      splitOperator symbol rest = (operator, Text.joinWith [','] (specs.map Varspec.text)) := by
  obtain ⟨c, rest, hbody, hc⟩ := exists_head_of_specs hne h
  cases hkey : operator.key with
  | nil =>
    have hsimple : operator = .simple := by cases operator <;> first | rfl | cases hkey
    refine ⟨c, rest, by rw [hbody, List.nil_append], Operator.futureSymbols_contains hc, ?_⟩
    simp only [splitOperator, Operator.ofKey?_eq_none hc, hsimple, hbody]
  | cons symbol more =>
    have hmore : more = [] := by cases operator <;> cases hkey <;> rfl
    subst hmore
    refine ⟨symbol, _, rfl, by cases operator <;> cases hkey <;> decide, ?_⟩
    have hfound : Operator.ofKey? [symbol] = some operator := hkey ▸ Operator.ofKey?_key operator
    simp only [splitOperator, hfound]
    rfl

/-- An expression is read exactly from what the grammar writes for it. -/
theorem read_eq_ok_iff {position : Nat} {expression : Text} {g : Group} :
    read position expression = .ok g ↔
      ∃ operator specs, (Part.expression operator specs).IsWellFormed ∧
        operator.key ++ Text.joinWith [','] (specs.map Varspec.text) = expression ∧
        (Part.expression operator specs).segment = .group g := by
  constructor
  · intro h
    cases expression with
    | nil => cases h
    | cons symbol rest =>
      rw [read] at h
      split at h
      · cases h
      · split at h
        rename_i operator body hsplit
        split at h
        · cases h
        · obtain ⟨vars, hvars, hg⟩ := bind_eq_ok_iff.mp h
          cases hg
          obtain ⟨specs, hspecs, hpieces, rfl⟩ := specs_of_readVariables (mapM_eq_ok_iff.mp hvars)
          have hne : specs ≠ [] := by
            rintro rfl
            exact Text.splitOn_ne_nil _ _ hpieces.symm
          have hkey := key_append_of_splitOperator symbol rest
          rw [hsplit] at hkey
          refine ⟨operator, specs, .expression hne hspecs, ?_, rfl⟩
          rw [hpieces, Text.joinWith_splitOn, hkey]
  · rintro ⟨operator, specs, hpart, rfl, hg⟩
    cases hg
    cases hpart with
    | expression hne h =>
      obtain ⟨symbol, rest, hexpression, hfuture, hsplit⟩ :=
        splitOperator_of_specs operator hne h
      obtain ⟨c, tail, hbody, -⟩ := exists_head_of_specs hne h
      have hpieces : Text.splitOn ',' (Text.joinWith [','] (specs.map Varspec.text)) =
          specs.map Varspec.text :=
        Text.splitOn_joinWith (by simpa using hne) (by
          intro piece hpiece
          obtain ⟨spec, hspec, rfl⟩ := List.mem_map.mp hpiece
          exact Varspec.not_mem_text (h spec hspec) (by decide) (by decide) (by decide))
      rw [hexpression]
      simp only [read, hfuture, hsplit, hpieces, Bool.false_eq_true, ite_false]
      rw [hbody, List.isEmpty_cons]
      simp only [Bool.false_eq_true, ite_false]
      refine bind_eq_ok_iff.mpr ⟨_, mapM_eq_ok_iff.mpr ?_, rfl⟩
      rw [List.forall₂_map_left_iff, List.forall₂_map_right_iff, List.forall₂_same]
      exact fun spec hspec => readVariable_eq_ok_iff.mpr ⟨spec, h spec hspec, rfl, rfl⟩

/-- What the grammar writes between braces has no braces. -/
theorem brace_not_mem {operator : Operator} {specs : List Varspec}
    (h : ∀ spec ∈ specs, spec.IsWellFormed) {c : Char} (hc : c = '{' ∨ c = '}') :
    c ∉ operator.key ++ Text.joinWith [','] (specs.map Varspec.text) := by
  intro hmem
  rcases List.mem_append.mp hmem with hkey | hbody
  · rcases hc with rfl | rfl <;> cases operator <;> revert hkey <;> decide
  · rcases Text.mem_joinWith hbody with hcomma | ⟨piece, hpiece, hmem⟩
    · rcases hc with rfl | rfl <;> revert hcomma <;> decide
    · obtain ⟨spec, hspec, rfl⟩ := List.mem_map.mp hpiece
      refine Varspec.not_mem_text (h spec hspec) ?_ ?_ ?_ hmem <;>
        rcases hc with rfl | rfl <;> decide

end Group

end WebLinking
