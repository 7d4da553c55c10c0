import WebLinking.Proofs.Pagination.Parameters
import WebLinking.Route

/-!
# Links that advertise query parameters

A link to a route may advertise query parameters that a client can fill in or leave out. If the
URL has no braces, the target of the link can be told in full: the URL, and in braces the names
of the parameters, each of them once. The target is read again as a template of these names, and
a client without values gets back to the URL.
-/

namespace WebLinking

namespace Route

variable {url : Text} {names : List Text}

/-- A URL with the names of query parameters in braces, which begin its query or continue it. -/
def advertised (url : Text) (names : List Text) : Text :=
  if names = [] then url
  else url ++ '{' :: (if '?' ∈ url then '&' else '?') :: Text.joinWith [','] names ++ ['}']

theorem advertised_ne_nil (hne : url ≠ []) (names : List Text) : advertised url names ≠ [] := by
  unfold advertised
  split
  · exact hne
  · simp

/-- What the template of the parameters is written as. -/
theorem text_advertising (url : Text) (names : List Text) :
    (Template.advertising url names).text = advertised url names := by
  by_cases hnames : names = []
  · rw [advertised, if_pos hnames, hnames, Template.advertising_nil, Template.text_verbatim]
  · rw [advertised, if_neg hnames, Template.text_advertising hnames]

/-- Names of variables make query parameters, which are added to the template of the URL one
after another. -/
theorem template_eq_ok {t : Template} (hurl : Template.parse url = .ok t)
    (hnames : ∀ name ∈ names, IsVarname name) :
    template url (names.map Value.text) =
      .ok (t.withVariables (names.map Pagination.parameter)) := by
  refine bind_eq_ok_iff.mpr ⟨t, hurl, ?_⟩
  clear hurl
  induction names generalizing t with
  | nil => rfl
  | cons name names ih =>
    obtain ⟨hname, hnames⟩ := List.forall_mem_cons.mp hnames
    have hparameter := Pagination.queryParameter_eq_ok ((isName_iff name).mpr hname)
    rw [List.map_cons, List.foldlM_cons, hparameter]
    exact ih hnames

/-- The link that advertises query parameters has the URL with their names as its target, and leads
to the URL. -/
theorem templatedLink_advertises {rel : RelationInput} {r : Relation} (hne : url ≠ [])
    (hopen : '{' ∉ url) (hclose : '}' ∉ url) (hnames : ∀ name ∈ names, IsVarname name)
    (hrel : rel.check = .sound r) :
    let l : Link := { href := advertised url names.eraseDups, rel := r }
    templatedLink url (names.map Value.text) rel = .ok l ∧
      Template.variableNames <$> l.template = .ok names.eraseDups ∧
      l.expand [] [] = .ok { l with href := url } := by
  intro l
  set t := (Template.verbatim url).withVariables (names.map Pagination.parameter) with ht
  have hurl : Template.parse url = .ok (Template.verbatim url) :=
    Template.parse_eq_verbatim hopen hclose
  have hsum : t = Template.advertising url names.eraseDups := by
    rw [ht, Template.withVariables_verbatim]
  have hhref : l.href = t.text := by
    rw [hsum, text_advertising]
  have hread : t.IsReadable :=
    (Template.IsReadable.of_parse hurl).withVariables <| List.forall_mem_map.mpr fun name hname =>
      Pagination.wellFormed_parameter ((isName_iff name).mpr (hnames name hname))
  refine ⟨?_, ?_, ?_⟩
  · have hlink : Link.of (.text l.href) rel = .ok l :=
      Link.of_text (advertised_ne_nil hne names.eraseDups) hrel
    rw [hhref] at hlink
    exact bind_eq_ok_iff.mpr ⟨t, template_eq_ok hurl hnames, hlink⟩
  · rw [Link.template_of_text hread hhref]
    refine congrArg Except.ok ?_
    rw [Template.variableNames_reread, hsum, Template.variableNames_advertising,
      ← OrderedSet.ofList_eq_eraseDups, ← OrderedSet.ofList_eq_eraseDups, OrderedSet.ofList_ofList]
  · have hundefined : ∀ v ∈ names.map Pagination.parameter,
        (Bindings.effective [] [] v.name).isUndefined = true := fun _ _ => rfl
    have hexpand : t.expand [] [] = .ok url := by
      rw [Template.expand, ht, Template.expandWith_withVariables_of_undefined hundefined,
        Template.expandWith_verbatim]
    rw [Link.expand_of_text hread hhref, hexpand, Link.retarget_ok l hne]

/-- Parameters that continue the query of a URL, one of them given twice; the link to the
resource itself. -/
theorem templatedLink_advertises_twice :
    ∃ l, templatedLink "/people?sort=name".toList
        [.text "page".toList, .text "size".toList, .text "page".toList] (.made Relation.self) =
          .ok l ∧
      l.href = "/people?sort=name\x7b&page,size\x7d".toList ∧
      Template.variableNames <$> l.template = .ok ["page".toList, "size".toList] ∧
      l.expand [] [] = .ok { l with href := "/people?sort=name".toList } := by
  have hnames : ∀ name ∈ ["page".toList, "size".toList, "page".toList], IsVarname name := by
    have hchecked : ∀ name ∈ ["page".toList, "size".toList, "page".toList],
        Variable.isName name = true := by
      decide
    exact fun name hname => (isName_iff name).mp (hchecked name hname)
  have hne : "/people?sort=name".toList ≠ [] := by decide
  have hopen : '{' ∉ "/people?sort=name".toList := by decide
  have hclose : '}' ∉ "/people?sort=name".toList := by decide
  have hrel : (RelationInput.made Relation.self).check = .sound Relation.self := rfl
  obtain ⟨hlink, hvariables, hexpand⟩ := templatedLink_advertises hne hopen hclose hnames hrel
  exact ⟨_, hlink, by decide, hvariables, hexpand⟩

end Route

end WebLinking
