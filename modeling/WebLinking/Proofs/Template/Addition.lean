import WebLinking.Proofs.Template.Composition
import WebLinking.Proofs.Template.Expansion

/-!
# What an added variable adds to an expansion

A variable goes to the end of a template, alone or into the last expression, and so its
rendering goes to the end of what the template expands to. Only the mark before it has to
be found out: whether a query begins or goes on is decided by the template, and within a
query expression by what the variables before it have written.
-/

namespace WebLinking.Template

variable {t : Template} {v : Variable} {lookup : Text → Value} {lead : Text}

/-- What stands before the rendering of a variable that is placed at the end. -/
inductive Leads (t : Template) (v : Variable) (lookup : Text → Value) : Text → Prop
  /-- The variable makes an expression of its own. -/
  | alone (h : ∀ g, t.lastGroup? = some g → g.operator = v.operator →
      g.operator.isMergeable = false) : Leads t v lookup v.operator.first
  /-- The variable joins an expression that writes nothing. -/
  | silent {g : Group} (hlast : t.lastGroup? = some g) (hoperator : g.operator = v.operator)
      (hmerge : g.operator.isMergeable = true) (hexpand : g.expand lookup = .ok []) :
      Leads t v lookup v.operator.first
  /-- The variable joins an expression that writes something, or fails. -/
  | begun {g : Group} (hlast : t.lastGroup? = some g) (hoperator : g.operator = v.operator)
      (hmerge : g.operator.isMergeable = true) (hexpand : g.expand lookup ≠ .ok []) :
      Leads t v lookup [v.operator.separator]

private theorem expandWith_alone :
    expandWith ⟨t.segments ++ [.group ⟨v.operator, [v]⟩]⟩ lookup = do
      let before ← t.expandWith lookup
      let rendered ← v.render (lookup v.name)
      return before ++ rendered.elim [] (v.operator.first ++ ·) := by
  rw [expandWith_append, expandWith_singleton, Segment.expand, Group.expand_singleton,
    Variable.expand_eq]
  simp only [bind_assoc, pure_bind]

private theorem expandWith_joined {g : Group} (hlast : t.lastGroup? = some g)
    (hmerge : g.operator.isMergeable = true)
    (hsilent : g.expand lookup = .ok [] → lead = g.operator.first)
    (hbegun : g.expand lookup ≠ .ok [] → lead = [g.operator.separator]) :
    expandWith ⟨t.segments.dropLast ++ [.group { g with vars := g.vars ++ [v] }]⟩ lookup = do
      let before ← t.expandWith lookup
      let rendered ← v.render (lookup v.name)
      return before ++ rendered.elim [] (lead ++ ·) := by
  obtain ⟨segments, hsegments⟩ := lastGroup?_eq_some_iff.mp hlast
  have ht : t = ⟨segments ++ [.group g]⟩ := by rw [← hsegments]
  rw [ht, List.dropLast_concat, expandWith_append, expandWith_append, expandWith_singleton,
    expandWith_singleton, Segment.expand, Segment.expand, Group.expand_snoc hmerge hsilent hbegun]
  simp only [bind_assoc, pure_bind, List.append_assoc]

/-- A variable joins the last expression if that has its operator and can be merged. -/
theorem place_of_lastGroup? {g : Group} (hlast : t.lastGroup? = some g)
    (hoperator : g.operator = v.operator) (hmerge : g.operator.isMergeable = true) :
    t.place v = ⟨t.segments.dropLast ++ [.group { g with vars := g.vars ++ [v] }]⟩ := by
  have hboth : (g.operator = v.operator && g.operator.isMergeable) = true := by
    rw [decide_eq_true hoperator, hmerge, Bool.and_self]
  unfold place
  rw [hlast]
  exact if_pos hboth

/-- A variable makes an expression of its own if it does not join the last one. -/
theorem place_of_alone (h : ∀ g, t.lastGroup? = some g → g.operator = v.operator →
    g.operator.isMergeable = false) :
    t.place v = ⟨t.segments ++ [.group ⟨v.operator, [v]⟩]⟩ := by
  unfold place
  split
  · rename_i g hlast
    have hboth : ¬(g.operator = v.operator && g.operator.isMergeable) = true := by
      intro hboth
      rw [Bool.and_eq_true, decide_eq_true_eq] at hboth
      rw [h g hlast hboth.1] at hboth
      exact Bool.noConfusion hboth.2
    exact if_neg hboth
  · rfl

/-- A placed variable adds its rendering to the expansion, after its lead. -/
theorem Leads.expandWith_place (h : Leads t v lookup lead) :
    (t.place v).expandWith lookup = do
      let before ← t.expandWith lookup
      let rendered ← v.render (lookup v.name)
      return before ++ rendered.elim [] (lead ++ ·) := by
  cases h with
  | alone h =>
    rw [place_of_alone h]
    exact expandWith_alone
  | silent hlast hoperator hmerge hexpand =>
    rw [place_of_lastGroup? hlast hoperator hmerge]
    refine expandWith_joined hlast hmerge (fun _ => ?_) fun hne => absurd hexpand hne
    rw [hoperator]
  | begun hlast hoperator hmerge hexpand =>
    rw [place_of_lastGroup? hlast hoperator hmerge]
    refine expandWith_joined hlast hmerge (fun he => absurd he hexpand) fun _ => ?_
    rw [hoperator]

/-- A variable is preceded by the mark of its operator if that is the separator or nothing is
joined. -/
theorem Leads.first (h : v.operator.isMergeable = true →
    v.operator.first = [v.operator.separator]) : Leads t v lookup v.operator.first := by
  by_cases hjoins : ∃ g, t.lastGroup? = some g ∧ g.operator = v.operator ∧
      g.operator.isMergeable = true
  · obtain ⟨g, hlast, hoperator, hmerge⟩ := hjoins
    by_cases hexpand : g.expand lookup = .ok []
    · exact .silent hlast hoperator hmerge hexpand
    · rw [h (hoperator ▸ hmerge)]
      exact .begun hlast hoperator hmerge hexpand
  · refine .alone fun g hlast hoperator => ?_
    rw [← Bool.not_eq_true]
    exact fun hmerge => hjoins ⟨g, hlast, hoperator, hmerge⟩

/-- An added query variable begins the query: there is none in the template, or it ends in
a query expression that writes nothing. -/
inductive BeginsQuery (t : Template) (lookup : Text → Value) : Prop
  /-- No expression begins a query and no literal does. -/
  | absent (hgroups : ∀ g, Segment.group g ∈ t.segments → g.operator ≠ .query)
      (hliterals : ∀ l, Segment.literal l ∈ t.segments → '?' ∉ l) : BeginsQuery t lookup
  /-- The query expression at the end has no defined variable. -/
  | silent {g : Group} (hlast : t.segments.getLast? = some (.group g))
      (hoperator : g.operator = .query) (hexpand : g.expand lookup = .ok []) :
      BeginsQuery t lookup

/-- What stands between the expansion of a template and the rendering of a variable that
is added to it. -/
inductive Joint (t : Template) (v : Variable) (lookup : Text → Value) : Text → Prop
  /-- The mark of the operator, for all variables but those of queries. -/
  | mark (h : v.operator ≠ .query) : Joint t v lookup v.operator.first
  /-- A question mark if the variable begins the query. -/
  | question (h : v.operator = .query) (hbegins : t.BeginsQuery lookup) : Joint t v lookup ['?']
  /-- An ampersand in every other query. -/
  | ampersand (h : v.operator = .query) (hbegins : ¬t.BeginsQuery lookup) : Joint t v lookup ['&']

/-- A template has no query exactly if neither an expression nor a literal begins one. -/
theorem hasQuery_eq_false_iff :
    t.hasQuery = false ↔ (∀ g, Segment.group g ∈ t.segments → g.operator ≠ .query) ∧
      ∀ l, Segment.literal l ∈ t.segments → '?' ∉ l := by
  simp only [hasQuery, List.any_eq_false]
  constructor
  · intro h
    refine ⟨fun g hg he => h _ hg ?_, fun l hl hmem => h _ hl ?_⟩
    · simp [Segment.beginsQuery, he]
    · simpa [Segment.beginsQuery] using hmem
  · rintro ⟨hgroups, hliterals⟩ s hs hbegins
    cases s with
    | literal l => exact hliterals l hs (by simpa [Segment.beginsQuery] using hbegins)
    | group g => exact hgroups g hs (by simpa [Segment.beginsQuery] using hbegins)

/-- The last expression of a template is its last segment. -/
theorem lastGroup?_eq_some_iff_getLast? {g : Group} :
    t.lastGroup? = some g ↔ t.segments.getLast? = some (.group g) := by
  rw [lastGroup?_eq_some_iff, List.getLast?_eq_some_iff]

/-- A template ends in a query exactly if its last expression is one. -/
theorem endsInQuery_eq_true_iff :
    t.endsInQuery = true ↔ ∃ g, t.lastGroup? = some g ∧ g.operator = .query := by
  unfold endsInQuery
  cases t.lastGroup? <;> simp

/-- A variable of another operator is added as it is. -/
theorem adapt_of_ne (h : v.operator ≠ .query) : t.adapt v = v := by
  simp [adapt, h]

private theorem exists_joint_of_endsInQuery (hv : v.operator = .query)
    (hend : t.endsInQuery = true) :
    ∃ lead, t.Joint v lookup lead ∧ Leads t (t.adapt v) lookup lead := by
  obtain ⟨g, hlast, hoperator⟩ := endsInQuery_eq_true_iff.mp hend
  have hadapt : t.adapt v = v := by simp [adapt, hend]
  have hsame : g.operator = v.operator := hoperator.trans hv.symm
  have hmerge : g.operator.isMergeable = true := by rw [hoperator]; rfl
  have hgetLast := lastGroup?_eq_some_iff_getLast?.mp hlast
  rw [hadapt]
  by_cases hexpand : g.expand lookup = .ok []
  · refine ⟨['?'], .question hv (.silent hgetLast hoperator hexpand), ?_⟩
    have hlead := Leads.silent hlast hsame hmerge hexpand
    rwa [hv] at hlead
  · refine ⟨['&'], .ampersand hv ?_, ?_⟩
    · rintro (⟨hgroups, -⟩ | ⟨hgetLast', -, hexpand'⟩)
      · exact hgroups g (List.mem_of_getLast? hgetLast) hoperator
      · rw [hgetLast] at hgetLast'
        cases hgetLast'
        exact hexpand hexpand'
    · have hlead := Leads.begun hlast hsame hmerge hexpand
      rwa [hv] at hlead

private theorem exists_joint_of_not_endsInQuery (hv : v.operator = .query)
    (hend : t.endsInQuery = false) :
    ∃ lead, t.Joint v lookup lead ∧ Leads t (t.adapt v) lookup lead := by
  have hnotLast : ∀ g, t.lastGroup? = some g → g.operator ≠ .query := by
    intro g hlast hoperator
    rw [endsInQuery_eq_true_iff.mpr ⟨g, hlast, hoperator⟩] at hend
    cases hend
  cases hquery : t.hasQuery with
  | true =>
    have hadapt : t.adapt v = v.asContinued := by simp [adapt, hv, hend, hquery]
    have hoperator := Variable.operator_asContinued hv
    refine ⟨['&'], .ampersand hv ?_, ?_⟩
    · rintro (⟨hgroups, hliterals⟩ | ⟨hgetLast, hoperator, -⟩)
      · rw [hasQuery_eq_false_iff.mpr ⟨hgroups, hliterals⟩] at hquery
        cases hquery
      · exact hnotLast _ (lastGroup?_eq_some_iff_getLast?.mpr hgetLast) hoperator
    · have hlead : Leads t v.asContinued lookup v.asContinued.operator.first :=
        .first fun _ => by rw [hoperator]; rfl
      rwa [hoperator, ← hadapt] at hlead
  | false =>
    have hadapt : t.adapt v = v := by simp [adapt, hquery]
    obtain ⟨hgroups, hliterals⟩ := hasQuery_eq_false_iff.mp hquery
    refine ⟨['?'], .question hv (.absent hgroups hliterals), ?_⟩
    rw [hadapt]
    have hlead : Leads t v lookup v.operator.first :=
      .alone fun g hlast hoperator => absurd (hoperator.trans hv) (hnotLast g hlast)
    rwa [hv] at hlead

/-- The lead of an added variable is the joint that the template and the values call for. -/
theorem exists_joint (t : Template) (v : Variable) (lookup : Text → Value) :
    ∃ lead, t.Joint v lookup lead ∧ Leads t (t.adapt v) lookup lead := by
  by_cases hv : v.operator = .query
  · cases hend : t.endsInQuery with
    | true => exact exists_joint_of_endsInQuery hv hend
    | false => exact exists_joint_of_not_endsInQuery hv hend
  · refine ⟨v.operator.first, .mark hv, ?_⟩
    rw [adapt_of_ne hv]
    refine .first fun hmerge => ?_
    cases hoperator : v.operator <;> rw [hoperator] at hmerge hv <;>
      first | rfl | exact absurd rfl hv | cases hmerge

/-- Adapting a variable changes neither its name nor what it renders. -/
theorem render_adapt (t : Template) (v : Variable) :
    (t.adapt v).name = v.name ∧ (t.adapt v).render = v.render := by
  unfold adapt
  split
  · rename_i h
    simp only [Bool.and_eq_true, decide_eq_true_eq] at h
    exact ⟨rfl, Variable.render_asContinued h.1.1⟩
  · exact ⟨rfl, rfl⟩

/-- An added variable adds its rendering to the expansion, after the joint. -/
theorem exists_joint_expandWith (hname : t.hasVariable v.name = false) :
    ∃ lead, t.Joint v lookup lead ∧ (t.withVariable v).expandWith lookup = do
      let before ← t.expandWith lookup
      let rendered ← v.render (lookup v.name)
      return before ++ rendered.elim [] (lead ++ ·) := by
  obtain ⟨lead, hjoint, hlead⟩ := exists_joint t v lookup
  obtain ⟨hadapt, hrender⟩ := t.render_adapt v
  refine ⟨lead, hjoint, ?_⟩
  have hplace := hlead.expandWith_place
  rw [hadapt, hrender] at hplace
  rw [withVariable, hname, if_neg Bool.false_ne_true]
  exact hplace

/-- A variable without a value that is added changes no expansion. -/
theorem expandWith_withVariable_of_undefined (h : (lookup v.name).isUndefined = true) :
    (t.withVariable v).expandWith lookup = t.expandWith lookup := by
  cases hname : t.hasVariable v.name with
  | true => rw [withVariable, if_pos hname]
  | false =>
    obtain ⟨lead, -, hsum⟩ := @exists_joint_expandWith t v lookup hname
    rw [hsum, Variable.render_eq_none_iff.mpr h]
    cases t.expandWith lookup with
    | error fault => rfl
    | ok before => exact congrArg Except.ok (List.append_nil before)

/-- Variables without values that are added change no expansion. -/
theorem expandWith_withVariables_of_undefined {vs : List Variable}
    (h : ∀ v ∈ vs, (lookup v.name).isUndefined = true) :
    (t.withVariables vs).expandWith lookup = t.expandWith lookup := by
  induction vs generalizing t with
  | nil => rfl
  | cons v vs ih =>
    obtain ⟨hv, hvs⟩ := List.forall_mem_cons.mp h
    exact (ih hvs).trans (expandWith_withVariable_of_undefined hv)

/-- Adding a variable appends its joint and rendering to the expansion, or nothing if it is there or
undefined. -/
theorem expand_withVariable (t : Template) (v : Variable) (values arguments : Bindings) :
    (t.hasVariable v.name = true → t.withVariable v = t) ∧
    (t.hasVariable v.name = false →
      let lookup := Bindings.effective values arguments
      (v.render (lookup v.name) = .ok none ↔ (lookup v.name).isUndefined = true) ∧
      ∃ lead, t.Joint v lookup lead ∧ (t.withVariable v).expand values arguments = do
        let before ← t.expand values arguments
        let rendered ← v.render (lookup v.name)
        return before ++ rendered.elim [] (lead ++ ·)) := by
  constructor
  · intro hname
    rw [withVariable, if_pos hname]
  · intro hname lookup
    exact ⟨Variable.render_eq_none_iff, exists_joint_expandWith hname⟩

/-- The query of a template stays unwritten, and neither it nor the literals write a question
mark. -/
structure QueryIsSilent (t : Template) (lookup : Text → Value) : Prop where
  /-- An expression begins a query. -/
  exists_query : ∃ g, Segment.group g ∈ t.segments ∧ g.operator = .query
  /-- The template does not end in it. -/
  not_last : ∀ g, t.segments.getLast? = some (.group g) → g.operator ≠ .query
  /-- No literal begins a query. -/
  literals : ∀ l, Segment.literal l ∈ t.segments → '?' ∉ l
  /-- No expression that begins a query has a defined variable. -/
  groups : ∀ g, Segment.group g ∈ t.segments → g.operator = .query → g.expand lookup = .ok []

/-- A query expression writes nothing or a question mark. -/
theorem question_mem_of_query {g : Group} (hoperator : g.operator = .query) {u : Text}
    (h : g.expand lookup = .ok u) : u = [] ∨ '?' ∈ u := by
  rw [Group.expand_eq, hoperator] at h
  cases hparts : Variable.renderings g.vars lookup with
  | error fault =>
    rw [hparts] at h
    cases h
  | ok parts =>
    rw [hparts] at h
    cases h
    by_cases hempty : parts = []
    · exact Or.inl (by rw [hempty]; rfl)
    · refine Or.inr ?_
      rw [Operator.joined, if_neg (by simpa using hempty)]
      exact List.mem_append_left _ (List.mem_singleton.mpr rfl)

/-- A query that an added variable continues is in the expansion, unless it is silent. -/
theorem question_mem_or_silent (hbegins : ¬t.BeginsQuery lookup) {before : Text}
    (h : t.expandWith lookup = .ok before) : '?' ∈ before ∨ t.QueryIsSilent lookup := by
  by_cases hmem : '?' ∈ before
  · exact Or.inl hmem
  have hliterals : ∀ l, Segment.literal l ∈ t.segments → '?' ∉ l := by
    intro l hl hquestion
    obtain ⟨u, hu, hpart⟩ := exists_expand_of_mem hl h
    cases hu
    exact hmem (hpart.subset hquestion)
  have hgroups : ∀ g, Segment.group g ∈ t.segments → g.operator = .query →
      g.expand lookup = .ok [] := by
    intro g hg hoperator
    obtain ⟨u, hu, hpart⟩ := exists_expand_of_mem hg h
    rcases question_mem_of_query hoperator hu with rfl | hquestion
    · exact hu
    · exact absurd (hpart.subset hquestion) hmem
  refine Or.inr ⟨?_, ?_, hliterals, hgroups⟩
  · by_contra hnone
    exact hbegins (.absent (fun g hg hoperator => hnone ⟨g, hg, hoperator⟩) hliterals)
  · intro g hlast hoperator
    exact hbegins (.silent hlast hoperator (hgroups g (List.mem_of_getLast? hlast) hoperator))

/-- A silent query is continued. -/
theorem QueryIsSilent.not_beginsQuery (h : t.QueryIsSilent lookup) : ¬t.BeginsQuery lookup := by
  obtain ⟨⟨g, hg, hoperator⟩, hnotLast, -, -⟩ := h
  rintro (⟨hgroups, -⟩ | ⟨hlast, hoperator', -⟩)
  · exact hgroups g hg hoperator
  · exact hnotLast _ hlast hoperator'

/-- An added request parameter comes after a question mark, or after an ampersand if a query was
begun or stays silent. -/
theorem ampersand_after_question {t : Template} {v : Variable} {values arguments : Bindings}
    {s : Text} (hv : v.kind = .requestParam ∨ v.kind = .list)
    (hname : t.hasVariable v.name = false)
    (hdefined : (Bindings.effective values arguments v.name).isUndefined = false)
    (hexpand : (t.withVariable v).expand values arguments = .ok s) :
    ∃ before rendered, t.expand values arguments = .ok before ∧
      v.render (Bindings.effective values arguments v.name) = .ok (some rendered) ∧
      (s = before ++ '&' :: rendered ∧
          ('?' ∈ before ∨ t.QueryIsSilent (Bindings.effective values arguments)) ∨
        s = before ++ '?' :: rendered ∧
          ¬t.QueryIsSilent (Bindings.effective values arguments)) := by
  have hoperator : v.operator = .query := by
    rcases hv with hv | hv <;> rw [Variable.operator, hv] <;> rfl
  obtain ⟨lead, hjoint, hsum⟩ := exists_joint_expandWith hname
  rw [expand, hsum] at hexpand
  obtain ⟨before, hbefore, hexpand⟩ := bind_eq_ok_iff.mp hexpand
  obtain ⟨r, hr, hexpand⟩ := bind_eq_ok_iff.mp hexpand
  cases r with
  | none =>
    rw [Variable.render_eq_none_iff.mp hr] at hdefined
    cases hdefined
  | some rendered =>
    cases hexpand
    refine ⟨before, rendered, hbefore, hr, ?_⟩
    cases hjoint with
    | mark hne => exact absurd hoperator hne
    | question _ hbegins => exact Or.inr ⟨rfl, fun hsilent => hsilent.not_beginsQuery hbegins⟩
    | ampersand _ hbegins => exact Or.inl ⟨rfl, question_mem_or_silent hbegins hbefore⟩

/-- A parameter after a fragment continues the query before it. -/
theorem ampersand_after_question_fragment :
    ∃ (t : Template) (v : Variable) (values : Bindings),
      parse "/x\x7b?q\x7d\x7b#f\x7d".toList = .ok t ∧
      v.kind = .requestParam ∧ t.hasVariable v.name = false ∧
      (Bindings.effective values [] v.name).isUndefined = false ∧
      (t.withVariable v).expand values [] = .ok "/x?q=1&page=2".toList ∧
      ∃ before rendered, t.expand values [] = .ok before ∧
        v.render (Bindings.effective values [] v.name) = .ok (some rendered) ∧
        ("/x?q=1&page=2".toList = before ++ '&' :: rendered ∧
            ('?' ∈ before ∨ t.QueryIsSilent (Bindings.effective values [])) ∨
          "/x?q=1&page=2".toList = before ++ '?' :: rendered ∧
            ¬t.QueryIsSilent (Bindings.effective values [])) := by
  let page : Variable := { name := "page".toList, kind := .requestParam }
  let values : Bindings := [("q".toList, .int 1), ("page".toList, .int 2)]
  have hparse : parse "/x\x7b?q\x7d\x7b#f\x7d".toList = .ok ⟨[.literal "/x".toList,
      .group ⟨.query, [{ name := "q".toList, kind := .requestParam }]⟩,
      .group ⟨.fragment, [{ name := "f".toList, kind := .fragment }]⟩]⟩ := rfl
  exact ⟨_, page, values, hparse, rfl, rfl, rfl, rfl,
    ampersand_after_question (Or.inl rfl) rfl rfl rfl⟩

/-- An ampersand may come without a question mark: the query stays unwritten, and a fragment follows
it. -/
theorem exists_ampersand_without_question :
    ¬∀ (p : Text) (t : Template) (v : Variable) (values : Bindings) (before rendered : Text),
      parse p = .ok t → v.kind = .requestParam ∨ v.kind = .list →
      t.hasVariable v.name = false → t.expand values [] = .ok before →
      v.render (Bindings.effective values [] v.name) = .ok (some rendered) →
      (t.withVariable v).expand values [] = .ok (before ++ '&' :: rendered) → '?' ∈ before := by
  intro h
  let page : Variable := { name := "page".toList, kind := .requestParam }
  have hparse : parse "/x\x7b?q\x7d\x7b#f\x7d".toList = .ok ⟨[.literal "/x".toList,
      .group ⟨.query, [{ name := "q".toList, kind := .requestParam }]⟩,
      .group ⟨.fragment, [{ name := "f".toList, kind := .fragment }]⟩]⟩ := rfl
  have hmem : '?' ∈ "/x".toList :=
    h _ _ page [("page".toList, .int 2)] "/x".toList "page=2".toList hparse (Or.inl rfl) rfl rfl
      rfl rfl
  revert hmem
  decide

end WebLinking.Template
