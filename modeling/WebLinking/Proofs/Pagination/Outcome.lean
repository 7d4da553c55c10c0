import WebLinking.Proofs.Pagination.Literal

/-!
# Page links on a base with expressions

Any pattern that can be read may be the base of page links, whatever its expressions are: they
may have the parameters already, in the path or in a fragment, exploded, cut to a prefix length
or repeated. Only numbers are ever written for them. So nothing but a number of too many digits
stands in the way of the links, every target is there, and none has a brace left. A base that
has both parameters is expanded as it is.
-/

namespace WebLinking.Pagination

variable {settings : Settings} {pattern : Text} {base template : Template} {size : ℕ}

/-- A base that has both parameters is the template of its page links. -/
theorem pageTemplate_eq_base (hpage : Variable.isName settings.pageParameter = true)
    (hsize : Variable.isName settings.sizeParameter = true)
    (hasPage : base.hasVariable settings.pageParameter = true)
    (hasSize : base.hasVariable settings.sizeParameter = true) :
    pageTemplate settings base = .ok base := by
  have hthere : ∀ name, base.hasVariable name = true →
      base.withVariable (parameter name) = base := by
    intro name hname
    rw [Template.withVariable]
    exact if_pos hname
  rw [pageTemplate_eq_ok hpage hsize, Template.withVariables, List.foldl_cons, hthere _ hasPage,
    List.foldl_cons, hthere _ hasSize, List.foldl_nil]

/-- The values for a page link by what is announced of the page. -/
theorem bindings_eq (settings : Settings) (n size : ℕ) :
    bindings settings n size = [(settings.sizeParameter, .nat size),
      (settings.pageParameter, .int ((n : ℤ) + offset settings))] := by
  rw [← shown_eq]
  rfl

/-- A link on a base points to an announced page: it has its relation and a target as the base
expands to. -/
structure PointsTo (settings : Settings) (base : Template) (size : ℕ) (lead : Relation × ℤ)
    (l : Link) : Prop where
  /-- The link is under the relation announced. -/
  rel : l.rel = lead.1
  /-- There is a target. -/
  href_ne_nil : l.href ≠ []
  /-- No expression begins in the target. -/
  open_not_mem : '{' ∉ l.href
  /-- No expression ends in the target. -/
  close_not_mem : '}' ∉ l.href
  /-- A base with both parameters expands to the target by itself. -/
  expand_base : base.hasVariable settings.pageParameter = true →
    base.hasVariable settings.sizeParameter = true →
      base.expand [(settings.sizeParameter, .nat size),
        (settings.pageParameter, .int (lead.2 + offset settings))] [] = .ok l.href

/-- A link that expands the template points to its page. -/
theorem pointsTo_of_pageLink (hpage : Variable.isName settings.pageParameter = true)
    (hsize : Variable.isName settings.sizeParameter = true)
    (htemplate : pageTemplate settings base = .ok template) (hreadable : template.IsReadable)
    {target : Relation × ℕ} {l : Link} (h : pageLink settings template size target = .ok l) :
    PointsTo settings base size (target.1, (target.2 : ℤ)) l := by
  obtain ⟨href, hexpand, hl⟩ := bind_eq_ok_iff.mp h
  have hne : href ≠ [] := by
    rintro rfl
    cases hl
  rw [Link.of_text hne rfl] at hl
  cases hl
  refine ⟨rfl, hne, hreadable.brace_not_mem_expandWith hexpand (Or.inl rfl),
    hreadable.brace_not_mem_expandWith hexpand (Or.inr rfl), fun hasPage hasSize => ?_⟩
  have hbase := pageTemplate_eq_base hpage hsize hasPage hasSize
  rw [htemplate] at hbase
  cases hbase
  rw [← bindings_eq]
  exact hexpand

/-- The size can be written and, unless both parameters go by one name, the numbers of all announced
pages. -/
def ShowsWritable (settings : Settings) (page : Page) (next : Bool) : Prop :=
  Decimal.IsWritable page.size ∧
    (settings.pageParameter ≠ settings.sizeParameter → IsLinkable settings page next)

/-- They can be written if those of each link can. -/
theorem showsWritable_iff {page : Page} {next : Bool} : ShowsWritable settings page next ↔
    ∀ target ∈ targets page next, CanShow settings page.size target.2 := by
  constructor
  · rintro ⟨hsize, hnumbers⟩ target htarget
    exact ⟨hsize, fun hdistinct => (isLinkable_iff.mp (hnumbers hdistinct)).2 target htarget⟩
  · intro h
    have hself : (Relation.self, page.number) ∈ targets page next := by simp [targets]
    refine ⟨(h _ hself).1, fun hdistinct => isLinkable_iff.mpr ⟨(h _ hself).1, ?_⟩⟩
    intro target htarget
    exact (h target htarget).2 hdistinct

private theorem exists_links_eq_mapM (hpage : Variable.isName settings.pageParameter = true)
    (hsize : Variable.isName settings.sizeParameter = true)
    (hbase : Template.parse pattern = .ok base) (page : Page) (hasNext : Option Bool) :
    ∃ template, pageTemplate settings base = .ok template ∧ template.IsReadable ∧
      template.Uses settings.pageParameter ∧ template.Uses settings.sizeParameter ∧
      links settings base (some page) hasNext =
        (targets page (goesOn page hasNext)).mapM (pageLink settings template page.size) := by
  obtain ⟨template, htemplate, hreadable, husesPage, husesSize⟩ :=
    exists_pageTemplate hpage hsize hbase
  refine ⟨template, htemplate, hreadable, husesPage, husesSize, ?_⟩
  rw [links, htemplate]
  rfl

/-- There is one link to each page that is announced if the numbers in them can be written. -/
theorem exists_links_pointsTo (hpage : Variable.isName settings.pageParameter = true)
    (hsize : Variable.isName settings.sizeParameter = true)
    (hbase : Template.parse pattern = .ok base) {page : Page} {hasNext : Option Bool}
    (hshow : ShowsWritable settings page (goesOn page hasNext)) :
    ∃ ls, links settings base (some page) hasNext = .ok ls ∧
      List.Forall₂ (PointsTo settings base page.size) (announced page (goesOn page hasNext))
        ls := by
  obtain ⟨template, htemplate, hreadable, -, husesSize, hlinks⟩ :=
    exists_links_eq_mapM hpage hsize hbase page hasNext
  have hsome : ∀ target ∈ targets page (goesOn page hasNext),
      ∃ l, pageLink settings template page.size target = .ok l := by
    intro target htarget
    obtain ⟨href, -, -, hlink⟩ :=
      exists_pageLink hreadable husesSize (showsWritable_iff.mp hshow target htarget)
    exact ⟨_, hlink target.1⟩
  obtain ⟨ls, hls⟩ := exists_mapM_eq_ok hsome
  refine ⟨ls, hlinks.trans hls, ?_⟩
  rw [announced_eq, List.forall₂_map_left_iff]
  apply (mapM_eq_ok_iff.mp hls).imp
  intro target l hl
  exact pointsTo_of_pageLink hpage hsize htemplate hreadable hl

/-- There are no links if one of the numbers in them has too many digits. -/
theorem links_eq_longInteger (hpage : Variable.isName settings.pageParameter = true)
    (hsize : Variable.isName settings.sizeParameter = true)
    (hbase : Template.parse pattern = .ok base) {page : Page} {hasNext : Option Bool}
    (hshow : ¬ShowsWritable settings page (goesOn page hasNext)) :
    links settings base (some page) hasNext = .error .longInteger := by
  obtain ⟨template, -, hreadable, husesPage, husesSize, hlinks⟩ :=
    exists_links_eq_mapM hpage hsize hbase page hasNext
  rw [showsWritable_iff] at hshow
  simp only [not_forall] at hshow
  obtain ⟨target, htarget, hlong⟩ := hshow
  rw [hlinks]
  exact mapM_pageLink_eq_longInteger hreadable husesPage husesSize htarget hlong

/-- On any base that can be read there is one link to each announced page, in order, if its numbers
can be written. -/
theorem links_on_readable_base (hpage : Variable.isName settings.pageParameter = true)
    (hsize : Variable.isName settings.sizeParameter = true)
    (hbase : Template.parse pattern = .ok base) (page : Page) (hasNext : Option Bool) :
    let next := goesOn page hasNext
    (ShowsWritable settings page next → ∃ ls, links settings base (some page) hasNext = .ok ls ∧
      List.Forall₂ (PointsTo settings base page.size) (announced page next) ls) ∧
      (¬ShowsWritable settings page next →
        links settings base (some page) hasNext = .error .longInteger) := by
  intro next
  constructor
  · intro hshow
    exact exists_links_pointsTo hpage hsize hbase hshow
  · intro hshow
    exact links_eq_longInteger hpage hsize hbase hshow

/-- A base that has the number of the page twice, once with a prefix length; pages are numbered from
one. -/
theorem links_on_readable_base_declared :
    ∃ (settings : Settings) (base : Template) (page : Page) (ls : List Link),
      settings.oneIndexed = true ∧ page = ⟨20, 11, some 260, some 13⟩ ∧
      Template.parse "/list{/page:1}{?page,size*}".toList = .ok base ∧
      Variable.isName settings.pageParameter = true ∧
      Variable.isName settings.sizeParameter = true ∧
      ShowsWritable settings page (goesOn page none) ∧
      links settings base (some page) none = .ok ls ∧
      List.Forall₂ (PointsTo settings base 20) (announced page (goesOn page none)) ls ∧
      ls.map (fun l => (l.rel, l.href)) =
        [(Relation.first, "/list/1?page=1&size=20".toList),
          (Relation.prev, "/list/1?page=11&size=20".toList),
          (Relation.self, "/list/1?page=12&size=20".toList),
          (Relation.next, "/list/1?page=13&size=20".toList),
          (Relation.last, "/list/1?page=13&size=20".toList)] := by
  let settings : Settings := { oneIndexed := true }
  let page : Page := ⟨20, 11, some 260, some 13⟩
  obtain ⟨base, hbase⟩ : ∃ base,
    Template.parse "/list{/page:1}{?page,size*}".toList = .ok base := ⟨_, rfl⟩
  have hpage : Variable.isName settings.pageParameter = true := by decide
  have hsize : Variable.isName settings.sizeParameter = true := by decide
  have hshow : ShowsWritable settings page (goesOn page none) := by
    unfold ShowsWritable IsLinkable
    decide +kernel
  obtain ⟨ls, hls, hpoints⟩ := (links_on_readable_base hpage hsize hbase page none).1 hshow
  have hrefs : (links settings base (some page) none).map
      (fun ls => ls.map fun l => (l.rel, l.href)) = .ok
        [(Relation.first, "/list/1?page=1&size=20".toList),
          (Relation.prev, "/list/1?page=11&size=20".toList),
          (Relation.self, "/list/1?page=12&size=20".toList),
          (Relation.next, "/list/1?page=13&size=20".toList),
          (Relation.last, "/list/1?page=13&size=20".toList)] := by
    cases hbase
    decide +kernel
  rw [hls] at hrefs
  exact ⟨settings, base, page, ls, rfl, rfl, hbase, hpage, hsize, hshow, hls, hpoints,
    Except.ok.inj hrefs⟩

private theorem self_mem_announced (page : Page) (next : Bool) :
    (Relation.self, (page.number : ℤ)) ∈ announced page next := by
  simp [announced]

/-- Counted from one, the number of a page may have too many digits, even where a prefix length
would cut it. -/
theorem exists_links_eq_longInteger :
    ∃ (settings : Settings) (base : Template) (page : Page),
      Variable.isName settings.pageParameter = true ∧
      Variable.isName settings.sizeParameter = true ∧
      Template.parse "/p{/page:1}{?size}".toList = .ok base ∧
      page.number = 10 ^ 4300 - 1 ∧ Page.ofFields page.fields = .ok page ∧
      links settings base (some page) none = .error .longInteger := by
  let settings : Settings := { oneIndexed := true }
  let page : Page := ⟨20, 10 ^ Decimal.digitLimit - 1, none, none⟩
  obtain ⟨base, hbase⟩ : ∃ base,
    Template.parse "/p{/page:1}{?size}".toList = .ok base := ⟨_, rfl⟩
  have hpage : Variable.isName settings.pageParameter = true := by decide
  have hsize : Variable.isName settings.sizeParameter = true := by decide
  have hlimit : Decimal.digitLimit = 4300 := rfl
  have hconsistent : page.IsConsistent := ⟨(fun _ h => by cases h), rfl⟩
  refine ⟨settings, base, page, hpage, hsize, hbase, by rw [← hlimit],
    hconsistent.ofFields_fields, links_eq_longInteger hpage hsize hbase fun hshow => ?_⟩
  have hdistinct : settings.pageParameter ≠ settings.sizeParameter := by decide
  have hshown : ((page.number : ℤ) + offset settings).toNat = 10 ^ Decimal.digitLimit := by
    rw [← shown_eq, Int.toNat_natCast]
    exact Nat.sub_add_cancel (Nat.pow_pos (by decide))
  have hwritable := (hshow.2 hdistinct).2 _ (self_mem_announced page _)
  rw [hshown] at hwritable
  exact Nat.lt_irrefl _ hwritable

end WebLinking.Pagination
