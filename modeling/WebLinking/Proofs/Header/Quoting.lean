import WebLinking.Proofs.Header.Splitting
import WebLinking.Proofs.Text.Blank

/-!
# Quoted parameters

A quoted text is read back, whatever its characters are: a backslash that quoting writes
stands before a quotation mark or a backslash, never before a line feed. To a scan a quoted
text is whole, since its own quotation marks and backslashes are taken as they are. So the
parameters of a header are read as they were written.
-/

namespace WebLinking.Header

variable {d : Char}

/-- A character that is no backslash stands for itself. -/
theorem unescape_cons {c : Char} (hc : c ≠ '\\') (rest : Text) :
    unescape (c :: rest) = c :: unescape rest := by
  rw [unescape]
  rintro d more rfl
  exact absurd rfl hc

/-- What is written for a character stands for it. -/
theorem unescape_escapeChar (c : Char) (rest : Text) :
    unescape (escapeChar c ++ rest) = c :: unescape rest := by
  unfold escapeChar
  by_cases hbackslash : c = '\\'
  · subst hbackslash
    simp [unescape]
  · by_cases hquote : c = '"'
    · subst hquote
      simp [unescape]
    · simp [hbackslash, hquote, unescape_cons hbackslash]

/-- What is written for a text stands for it. -/
theorem unescape_flatMap (t : Text) : unescape (t.flatMap escapeChar) = t := by
  induction t with
  | nil => rfl
  | cons c rest ih => rw [List.flatMap_cons, unescape_escapeChar, ih]

/-- A quoted text is read back. -/
theorem unquote_quote (t : Text) : unquote (quote t) = t := by
  have htrim : (quote t).trim = quote t := by
    refine Text.trim_eq_self ?_ ?_
    · rintro c ⟨⟩
      decide
    · intro c hc
      rw [quote, List.getLast?_concat] at hc
      cases hc
      decide
  have hbody : ((quote t).drop 1).dropLast = t.flatMap escapeChar := by simp [quote]
  have hmarks : (decide ((quote t).length ≥ 2) && (quote t).head? == some '"' &&
      (quote t).getLast? == some '"') = true := by
    rw [quote, List.getLast?_concat]
    simp
  simp only [unquote, htrim, hmarks, ite_true, hbody, unescape_flatMap]

private theorem passes_escapeChar (d c : Char) : Passes d .quoted (escapeChar c) .quoted := by
  unfold escapeChar
  split
  · exact .cons (by simp) (.cons (by simp [Zone.next]) .nil)
  · rename_i hc
    simp only [Bool.or_eq_true, decide_eq_true_eq, not_or] at hc
    refine .cons (by simp) ?_
    rw [Zone.next, if_neg hc.1, if_neg hc.2]
    exact .nil

/-- A quoted text is whole, whatever its characters are. -/
theorem passes_quote (hd : Zone.outside.next d = .outside) (t : Text) :
    Passes d .outside (quote t) .outside := by
  have hbody : Passes d .quoted (t.flatMap escapeChar) .quoted :=
    .flatMap hd fun c _ => passes_escapeChar d c
  have hne : '"' ≠ d := by
    rintro rfl
    cases hd
  exact .cons (fun _ => hne) (hbody.append hd (.cons (by simp) .nil))

/-- A parameter as its name and its value between quotation marks. -/
def writeParameter (p : Text × Text) : Text := p.1 ++ '=' :: quote p.2

/-- A name without marks that is not changed by being trimmed and written in small letters. -/
structure IsParameterName (name : Text) : Prop where
  /-- The name has none of the marks that headers are cut at. -/
  marks : ∀ c ∈ name, c ∉ ['=', ';', ',', '"', '<']
  /-- The name is trimmed and in small letters. -/
  lower_trim : Text.lower name.trim = name

/-- A name is gone through mark by mark, not every character there is. -/
instance (name : Text) : Decidable (IsParameterName name) :=
  decidable_of_iff
    ((name.all fun c => decide (c ∉ ['=', ';', ',', '"', '<'])) = true ∧
      Text.lower name.trim = name)
    ⟨fun h => ⟨by simpa using h.1, h.2⟩, fun h => ⟨by simpa using h.marks, h.lower_trim⟩⟩

/-- A written parameter is read back. -/
theorem parameter_writeParameter {p : Text × Text} (hp : IsParameterName p.1) :
    parameter (writeParameter p) = p := by
  have hequals : '=' ∉ p.1 := fun hmem => hp.marks _ hmem (by decide)
  simp only [parameter, writeParameter, Text.cutAt_append hequals, unquote_quote, hp.lower_trim]

/-- A written parameter is whole between semicolons and between commas. -/
theorem passes_writeParameter (hd : d = ';' ∨ d = ',') {p : Text × Text}
    (hp : IsParameterName p.1) : Passes d .outside (writeParameter p) .outside := by
  have houtside : Zone.outside.next d = .outside := by rcases hd with rfl | rfl <;> rfl
  have hname : Passes d .outside p.1 .outside := by
    refine .of_plain fun c hc => ?_
    have hmarks := hp.marks c hc
    simp only [List.mem_cons, List.not_mem_nil, or_false, not_or] at hmarks
    rcases hd with rfl | rfl
    · exact ⟨hmarks.2.1, hmarks.2.2.2⟩
    · exact ⟨hmarks.2.2.1, hmarks.2.2.2⟩
  refine hname.append houtside (.cons ?_ (passes_quote houtside p.2))
  rcases hd with rfl | rfl <;> decide

/-- Texts that are left whole between semicolons are read one by one, blank ones left out. -/
theorem parameters_of_passes {texts : List Text} (h : ∀ t ∈ texts, Passes ';' .outside t .outside) :
    parameters (texts.flatMap ([';'] ++ ·)) =
      (texts.filter fun t => !t.isBlankText).map parameter := by
  rw [parameters, split_flatMap rfl h, List.filter_cons_of_neg (by decide)]

/-- Parameters that are written one after another, each after a semicolon, are read back. -/
theorem parameters_flatMap {ps : List (Text × Text)} (h : ∀ p ∈ ps, IsParameterName p.1) :
    parameters (ps.flatMap fun p => ';' :: writeParameter p) = ps := by
  have hwritten : ps.flatMap (fun p => ';' :: writeParameter p) =
      (ps.map writeParameter).flatMap ([';'] ++ ·) := by
    rw [List.flatMap_map]
    rfl
  have hpasses : ∀ piece ∈ ps.map writeParameter, Passes ';' .outside piece .outside := by
    intro piece hpiece
    obtain ⟨p, hp, rfl⟩ := List.mem_map.mp hpiece
    exact passes_writeParameter (Or.inl rfl) (h p hp)
  have hblank : ∀ piece ∈ ps.map writeParameter, (!Text.isBlankText piece) = true := by
    intro piece hpiece
    obtain ⟨p, -, rfl⟩ := List.mem_map.mp hpiece
    have hequals : ¬Text.isBlankText (writeParameter p) = true := fun hall =>
      absurd (List.all_eq_true.mp hall '=' (by simp [writeParameter])) (by decide)
    simpa using hequals
  have hread : (ps.map writeParameter).map parameter = ps := by
    rw [List.map_map]
    calc
      ps.map (parameter ∘ writeParameter) = ps.map id :=
        List.map_congr_left fun p hp => parameter_writeParameter (h p hp)
      _ = ps := List.map_id ps
  rw [hwritten, parameters_of_passes hpasses, List.filter_eq_self.mpr hblank, hread]

end WebLinking.Header
