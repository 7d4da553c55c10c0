import WebLinking.Proofs.Link.Finality
import WebLinking.Proofs.Pagination.Links

/-!
# Query parameters on a text without expressions

Query parameters that are added to a text one after another make one expression at its end. The
first of them opens it, with a question mark or, if the text has one, with an ampersand, and
the others join it. A name that is there is not added again, so the expression has the set of
the names that were added.
-/

namespace WebLinking

namespace Template

variable {base name : Text} {names : List Text}

/-- The kind of the query parameters that are added to a text: they continue the query if the
text has a question mark. -/
def kindAfter (base : Text) : VariableKind :=
  if '?' ∈ base then .requestParamContinued else .requestParam

theorem isMergeable_kindAfter (base : Text) : (kindAfter base).operator.isMergeable = true := by
  unfold kindAfter
  split <;> rfl

theorem isNamed_kindAfter (base : Text) : (kindAfter base).operator.isNamed = true := by
  unfold kindAfter
  split <;> rfl

theorem key_kindAfter (base : Text) :
    (kindAfter base).operator.key = [if '?' ∈ base then '&' else '?'] := by
  unfold kindAfter
  split <;> rfl

theorem first_kindAfter (base : Text) :
    (kindAfter base).operator.first = [if '?' ∈ base then '&' else '?'] := by
  unfold kindAfter
  split <;> rfl

theorem separator_kindAfter (base : Text) : (kindAfter base).operator.separator = '&' := by
  unfold kindAfter
  split <;> rfl

/-- The parameters begin a query exactly if the text does not. -/
theorem operator_kindAfter_beq (base : Text) :
    ((kindAfter base).operator == .query) = !decide ('?' ∈ base) := by
  unfold kindAfter
  by_cases hmark : '?' ∈ base
  · rw [if_pos hmark, decide_eq_true hmark]
    rfl
  · rw [if_neg hmark, decide_eq_false hmark]
    rfl

/-- A query parameter that is added to a text. -/
def parameterAfter (base name : Text) : Variable := { name, kind := kindAfter base }

/-- A query parameter is written as its name. -/
theorem varspec_parameterAfter (base name : Text) : (parameterAfter base name).varspec = name := by
  unfold parameterAfter kindAfter
  split <;> rfl

/-- The expression of query parameters that are added to a text. -/
def parametersAfter (base : Text) (names : List Text) : Group where
  operator := (kindAfter base).operator
  vars := names.map (parameterAfter base)

/-- A text with the expression of some query parameters after it, unless there are none. -/
def advertising (base : Text) (names : List Text) : Template :=
  ⟨(verbatim base).segments ++ if names.isEmpty then [] else [.group (parametersAfter base names)]⟩

theorem advertising_nil (base : Text) : advertising base [] = verbatim base := by
  rw [advertising, List.isEmpty_nil, if_pos rfl, List.append_nil]

theorem advertising_of_ne_nil (h : names ≠ []) :
    advertising base names =
      ⟨(verbatim base).segments ++ [.group (parametersAfter base names)]⟩ := by
  rw [advertising, if_neg (mt List.isEmpty_iff.mp h)]

/-- The parameters are the variables of the template. -/
theorem uses_advertising : (advertising base names).Uses name ↔ name ∈ names := by
  by_cases hnames : names = []
  · subst hnames
    rw [advertising_nil]
    refine iff_of_false ?_ List.not_mem_nil
    rintro ⟨g, hg, -⟩
    exact group_not_mem_verbatim base g hg
  · rw [advertising_of_ne_nil hnames]
    constructor
    · rintro ⟨g, hg, v, hv, rfl⟩
      rcases List.mem_append.mp hg with hbase | hlast
      · exact absurd hbase (group_not_mem_verbatim base g)
      · cases List.mem_singleton.mp hlast
        obtain ⟨name, hname, rfl⟩ := List.mem_map.mp hv
        exact hname
    · intro hname
      exact ⟨parametersAfter base names, by simp, parameterAfter base name,
        List.mem_map_of_mem hname, rfl⟩

private theorem lastGroup?_verbatim : (verbatim base).lastGroup? = none := by
  cases base <;> rfl

private theorem any_beginsQuery_verbatim :
    (verbatim base).segments.any Segment.beginsQuery = decide ('?' ∈ base) := by
  cases base with
  | nil => rfl
  | cons c rest => simp [verbatim, Segment.beginsQuery]

theorem lastGroup?_advertising (h : names ≠ []) :
    (advertising base names).lastGroup? = some (parametersAfter base names) := by
  rw [advertising_of_ne_nil h]
  exact lastGroup?_eq_some_iff.mpr ⟨_, rfl⟩

/-- A parameter goes on with the query exactly if the text or a parameter before it has begun
one. -/
theorem adapt_advertising (base : Text) (names : List Text) (name : Text) :
    (advertising base names).adapt (Pagination.parameter name) = parameterAfter base name := by
  have hquery : (!(advertising base names).endsInQuery && (advertising base names).hasQuery) =
      decide ('?' ∈ base) := by
    by_cases hnames : names = []
    · subst hnames
      rw [advertising_nil, endsInQuery, lastGroup?_verbatim, hasQuery, any_beginsQuery_verbatim]
      rfl
    · have hends : (advertising base names).endsInQuery = !decide ('?' ∈ base) := by
        rw [endsInQuery, lastGroup?_advertising hnames]
        exact operator_kindAfter_beq base
      have hhas : (advertising base names).hasQuery = true := by
        rw [advertising_of_ne_nil hnames, hasQuery, List.any_append, any_beginsQuery_verbatim,
          List.any_cons, Segment.beginsQuery, parametersAfter, operator_kindAfter_beq]
        cases decide ('?' ∈ base) <;> rfl
      rw [hends, hhas, Bool.not_not, Bool.and_true]
  have hoperator : (Pagination.parameter name).operator = .query := rfl
  rw [adapt, decide_eq_true hoperator, Bool.true_and, hquery, parameterAfter, kindAfter]
  by_cases hmark : '?' ∈ base
  · rw [decide_eq_true hmark, if_pos hmark]
    rfl
  · rw [decide_eq_false hmark, if_neg hmark]
    rfl

/-- The first parameter makes an expression of its own, and the others join it. -/
theorem place_advertising (base : Text) (names : List Text) (name : Text) :
    (advertising base names).place (parameterAfter base name) =
      advertising base (names ++ [name]) := by
  rw [@advertising_of_ne_nil base (names ++ [name]) (by simp), parametersAfter, List.map_append]
  by_cases hnames : names = []
  · subst hnames
    rw [advertising_nil]
    exact place_of_alone fun g hlast =>
      absurd (hlast.symm.trans lastGroup?_verbatim) (Option.some_ne_none g)
  · rw [place_of_lastGroup? (lastGroup?_advertising hnames) rfl (isMergeable_kindAfter base),
      advertising_of_ne_nil hnames, List.dropLast_concat]
    rfl

/-- A parameter is added to those that are there unless it is one of them. -/
theorem withVariable_advertising (base : Text) (names : List Text) (name : Text) :
    (advertising base names).withVariable (Pagination.parameter name) =
      advertising base (OrderedSet.insert (· == ·) names name) := by
  have hthere : (advertising base names).hasVariable (Pagination.parameter name).name = true ↔
      names.any (· == name) = true := by
    rw [hasVariable_iff, uses_advertising, List.any_beq']
    exact List.contains_iff_mem.symm
  rw [withVariable, OrderedSet.insert, adapt_advertising, place_advertising]
  by_cases hname : names.any (· == name) = true
  · rw [if_pos hname, if_pos (hthere.mpr hname)]
  · rw [if_neg hname, if_neg (mt hthere.mp hname)]

/-- Parameters that are added one after another are added to those that are there as members to
a set. -/
theorem withVariables_advertising (base : Text) (names new : List Text) :
    (advertising base names).withVariables (new.map Pagination.parameter) =
      advertising base (OrderedSet.insertAll (· == ·) names new) := by
  induction new generalizing names with
  | nil => rfl
  | cons name new ih =>
    rw [List.map_cons, OrderedSet.insertAll_cons, ← ih, ← withVariable_advertising]
    rfl

/-- The parameters that are added to a text are in one expression, each name once, where it was
first added. -/
theorem withVariables_verbatim (base : Text) (names : List Text) :
    (verbatim base).withVariables (names.map Pagination.parameter) =
      advertising base names.eraseDups := by
  rw [← advertising_nil, withVariables_advertising, ← OrderedSet.ofList_eq_eraseDups]
  rfl

/-- A text that stands for itself is its own text. -/
theorem text_verbatim (base : Text) : (verbatim base).text = base := by
  cases base with
  | nil => rfl
  | cons c rest => exact List.flatMap_singleton Segment.text (.literal (c :: rest))

/-- The names of parameters stand in braces after the text that they are added to. -/
theorem text_advertising (h : names ≠ []) :
    (advertising base names).text =
      base ++ '{' :: (if '?' ∈ base then '&' else '?') :: Text.joinWith [','] names ++ ['}'] := by
  have hbase : (verbatim base).segments.flatMap Segment.text = base := text_verbatim base
  have hnames : (parametersAfter base names).vars.map Variable.varspec = names := by
    rw [parametersAfter, List.map_map]
    exact (List.map_congr_left fun name _ => varspec_parameterAfter base name).trans
      (List.map_id names)
  rw [advertising_of_ne_nil h, text, List.flatMap_append, hbase, List.flatMap_singleton,
    Segment.text, Group.text, hnames, parametersAfter, key_kindAfter]
  simp only [List.cons_append, List.nil_append, List.append_assoc]

/-- The names of the parameters are those of the variables. -/
theorem variableNames_advertising (base : Text) (names : List Text) :
    (advertising base names).variableNames = names.eraseDups := by
  have hparts : (advertising base names).parts.flatMap Part.names = names := by
    have hbase : (verbatim base).parts.flatMap Part.names = [] := by
      cases base <;> rfl
    by_cases hnames : names = []
    · rw [hnames, advertising_nil, hbase]
    · rw [parts] at hbase
      rw [advertising_of_ne_nil hnames, parts, List.map_append, List.flatMap_append, hbase]
      simp [parametersAfter, Segment.part, Part.names, Variable.spec, parameterAfter,
        Function.comp_def]
  rw [variableNames_eq, hparts, OrderedSet.ofList_eq_eraseDups]

end Template

end WebLinking
