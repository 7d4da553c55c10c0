import WebLinking.Proofs.Link.Header
import WebLinking.Proofs.Pagination.Parameters

/-!
# Page links on a text without expressions

On a base without expressions the links of a page can be told in full: the base, the number
of the page and its size, after a question mark or, if the base has one, after an ampersand.
Which pages the links lead to is told by integers, so that it says something that no number is
negative.
-/

namespace WebLinking

namespace Template

variable {base : Text} {p s : Text}

/-- A number is written in digits after the name of its parameter. -/
theorem render_parameterAfter {n : ℕ} (hn : Decimal.IsWritable n) (base name : Text) :
    (parameterAfter base name).render (.nat n) = .ok (some (name ++ '=' :: Decimal.ofNat n)) := by
  have hencode : (parameterAfter base name).encode (Decimal.ofNat n) = Decimal.ofNat n := by
    have hplain : ∀ c ∈ Decimal.ofNat n, Percent.isUnreserved c = true := by
      intro c hc
      simp [Percent.isUnreserved, Char.isAlphanum, Decimal.isDigit_of_mem_ofNat hc]
    rw [Variable.encode, Variable.operator, parameterAfter, kindAfter]
    split <;> exact Percent.encodeUnreserved_eq_self hplain
  have hnamed : (parameterAfter base name).operator.isNamed = true := isNamed_kindAfter base
  have hdigits : ¬(Decimal.ofNat n).isEmpty = true :=
    mt List.isEmpty_iff.mp (Decimal.ofNat_ne_nil n)
  have hwrite : (parameterAfter base name).writeScalar (Decimal.ofNat n) =
      (parameterAfter base name).named ((parameterAfter base name).encode (Decimal.ofNat n)) := rfl
  rw [Variable.render_nat hn, hwrite, hencode, Variable.named, hnamed, if_neg (by decide),
    if_neg hdigits]
  rfl

/-- A text and two query parameters expand to the text, a mark and the two numbers under their
names. -/
theorem expandWith_advertising {lookup : Text → Value} {n k : ℕ} (hp : lookup p = .nat n)
    (hs : lookup s = .nat k) (hn : Decimal.IsWritable n) (hk : Decimal.IsWritable k) :
    expandWith (advertising base [p, s]) lookup =
      .ok (base ++ (if '?' ∈ base then '&' else '?') :: p ++ '=' :: Decimal.ofNat n ++
        '&' :: s ++ '=' :: Decimal.ofNat k) := by
  have hbase : expandWith ⟨(verbatim base).segments⟩ lookup = .ok base :=
    expandWith_verbatim base lookup
  have hparts : Variable.renderings (parametersAfter base [p, s]).vars lookup =
      .ok [p ++ '=' :: Decimal.ofNat n, s ++ '=' :: Decimal.ofNat k] := by
    refine bind_eq_ok_iff.mpr
      ⟨[some (p ++ '=' :: Decimal.ofNat n), some (s ++ '=' :: Decimal.ofNat k)], ?_, rfl⟩
    refine mapM_eq_ok_iff.mpr (.cons ?_ (.cons ?_ .nil))
    · exact (congrArg _ hp).trans (render_parameterAfter hn base p)
    · exact (congrArg _ hs).trans (render_parameterAfter hk base s)
  have hgroup : (parametersAfter base [p, s]).expand lookup =
      .ok ((if '?' ∈ base then '&' else '?') ::
        p ++ '=' :: Decimal.ofNat n ++ '&' :: s ++ '=' :: Decimal.ofNat k) := by
    rw [Group.expand_eq, hparts]
    refine congrArg Except.ok ?_
    rw [Operator.joined, if_neg (by simp), parametersAfter, first_kindAfter, separator_kindAfter,
      Text.joinWith_cons]
    simp
  rw [advertising_of_ne_nil (List.cons_ne_nil p [s]), expandWith_append, expandWith_singleton,
    Segment.expand, hbase, hgroup]
  refine congrArg Except.ok ?_
  simp only [List.append_assoc, List.cons_append]

end Template

namespace Pagination

variable {settings : Settings} {base : Text}

/-- What is added to the number of a page where a link shows it. -/
def offset (settings : Settings) : ℕ := if settings.oneIndexed then 1 else 0

/-- What a link shows is the number of the page and what is added to it. -/
theorem shown_eq (settings : Settings) (n : ℕ) :
    ((shown settings n : ℕ) : ℤ) = (n : ℤ) + offset settings := by
  unfold shown offset
  split <;> simp

/-- The pages that the links of a page lead to, in order. -/
def announced (page : Page) (next : Bool) : List (Relation × ℤ) :=
  (if 0 < page.number ∨ next = true then [(Relation.first, (0 : ℤ))] else []) ++
    (if 0 < page.number then [(Relation.prev, (page.number : ℤ) - 1)] else []) ++
    [(Relation.self, (page.number : ℤ))] ++
    (if next = true then [(Relation.next, (page.number : ℤ) + 1)] else []) ++
    match page.totalPages with
    | some count =>
      if (0 < page.number ∨ next = true) ∧ 0 < count then [(Relation.last, (count : ℤ) - 1)]
      else []
    | none => []

/-- The link to a page, given by its number, under a relation. -/
def literalLink (settings : Settings) (base : Text) (size : ℕ) (target : Relation × ℤ) : Link where
  href := base ++ (if '?' ∈ base then '&' else '?') :: settings.pageParameter ++
    '=' :: Decimal.ofInt (target.2 + offset settings) ++
    '&' :: settings.sizeParameter ++ '=' :: Decimal.ofNat size
  rel := target.1

private theorem map_ite_eq {p q : Prop} [Decidable p] [Decidable q] (hpq : p ↔ q) {rel : Relation}
    {n : ℕ} {i : ℤ} (hi : p → (n : ℤ) = i) :
    (if p then [(rel, n)] else []).map (fun target => (target.1, (target.2 : ℤ))) =
      if q then [(rel, i)] else [] := by
  by_cases hp : p
  · rw [if_pos hp, if_pos (hpq.mp hp), List.map_singleton, hi hp]
  · rw [if_neg hp, if_neg (mt hpq.mpr hp), List.map_nil]

/-- The pages are those that the links are made for. -/
theorem announced_eq (page : Page) (next : Bool) :
    announced page next = (targets page next).map fun target => (target.1, (target.2 : ℤ)) := by
  have hnavigable : (page.hasPrevious || next) = true ↔ 0 < page.number ∨ next = true := by
    simp [Page.hasPrevious]
  have hprevious : page.hasPrevious = true ↔ 0 < page.number := decide_eq_true_iff
  simp only [announced, targets, List.map_append, List.map_singleton,
    map_ite_eq hnavigable fun _ => Nat.cast_zero,
    map_ite_eq hprevious fun h => Nat.cast_pred (hprevious.mp h),
    map_ite_eq (Iff.refl (next = true)) fun _ => Nat.cast_succ page.number]
  apply congrArg (List.append _)
  cases page.totalPages with
  | none => rw [Option.getD_none, bne_self_eq_false, Bool.and_false, if_neg Bool.false_ne_true,
      List.map_nil]
  | some count =>
    have hlast : ((page.hasPrevious || next) && count != 0) = true ↔
        (0 < page.number ∨ next = true) ∧ 0 < count := by
      rw [Bool.and_eq_true, hnavigable, bne_iff_ne, Nat.pos_iff_ne_zero (n := count)]
    exact (map_ite_eq hlast fun h => Nat.cast_pred (hlast.mp h).2).symm

/-- No page has a negative number. -/
theorem announced_nonneg (page : Page) (next : Bool) : ∀ target ∈ announced page next,
    0 ≤ target.2 := by
  rw [announced_eq]
  exact List.forall_mem_map.mpr fun target _ => Int.natCast_nonneg target.2

private theorem pageTemplate_verbatim (hnames : settings.NamesParameters) :
    pageTemplate settings (Template.verbatim base) =
      .ok (Template.advertising base [settings.pageParameter, settings.sizeParameter]) := by
  have htemplate := Template.withVariables_verbatim base
    [settings.pageParameter, settings.sizeParameter]
  have hdistinct : [settings.pageParameter, settings.sizeParameter].eraseDups =
      [settings.pageParameter, settings.sizeParameter] := by
    simp [List.eraseDups_cons, hnames.distinct.symm]
  rw [hdistinct] at htemplate
  rw [← htemplate]
  exact pageTemplate_eq_ok hnames.page hnames.size (Template.verbatim base)

/-- A page link on a text without expressions is the text, the number and the size. -/
theorem pageLink_verbatim {template : Template} (hnames : settings.NamesParameters)
    (htemplate : pageTemplate settings (Template.verbatim base) = .ok template) {size : ℕ}
    (hsize : Decimal.IsWritable size) {target : Relation × ℕ}
    (htarget : Decimal.IsWritable (shown settings target.2)) :
    pageLink settings template size target =
      .ok (literalLink settings base size (target.1, (target.2 : ℤ))) := by
  rw [pageTemplate_verbatim hnames] at htemplate
  cases htemplate
  have hnumber : Bindings.effective (bindings settings target.2 size) [] settings.pageParameter =
      .nat (shown settings target.2) := by
    rw [effective_bindings, if_neg hnames.distinct, if_pos rfl]
  have hlength : Bindings.effective (bindings settings target.2 size) [] settings.sizeParameter =
      .nat size := by
    rw [effective_bindings, if_pos rfl]
  have hshown : Decimal.ofInt ((target.2 : ℤ) + offset settings) =
      Decimal.ofNat (shown settings target.2) := by
    rw [← shown_eq, Decimal.ofInt, if_neg (Int.natCast_nonneg _).not_gt, Int.natAbs_natCast]
  refine bind_eq_ok_iff.mpr
    ⟨_, Template.expandWith_advertising hnumber hlength htarget hsize, ?_⟩
  rw [Link.of_text (by simp) rfl, literalLink, hshown]

/-- The size of a page and the numbers that its links show can be written. -/
def IsLinkable (settings : Settings) (page : Page) (next : Bool) : Prop :=
  Decimal.IsWritable page.size ∧
    ∀ target ∈ announced page next, Decimal.IsWritable (target.2 + offset settings).toNat

/-- The numbers announced are those that the links show. -/
theorem isLinkable_iff {page : Page} {next : Bool} : IsLinkable settings page next ↔
    Decimal.IsWritable page.size ∧
      ∀ target ∈ targets page next, Decimal.IsWritable (shown settings target.2) := by
  rw [IsLinkable, announced_eq, List.forall_mem_map]
  simp only [← shown_eq, Int.toNat_natCast]

/-- The links of a page on a base that is given as a text. -/
def linksOn (settings : Settings) (base : Text) (page : Page) (hasNext : Option Bool) :
    Except Fault (List Link) := do
  links settings (← Template.parse base) (some page) hasNext

/-- Whether there is a next page, as it is said or else as the page says it. -/
def goesOn (page : Page) (hasNext : Option Bool) : Bool := hasNext.getD (page.hasNext.getD false)

private theorem linksOn_eq_mapM (hnames : settings.NamesParameters) (hopen : '{' ∉ base)
    (hclose : '}' ∉ base) (page : Page) (hasNext : Option Bool) :
    ∃ template, pageTemplate settings (Template.verbatim base) = .ok template ∧
      linksOn settings base page hasNext =
        (targets page (goesOn page hasNext)).mapM (pageLink settings template page.size) := by
  refine ⟨_, pageTemplate_verbatim hnames, ?_⟩
  rw [linksOn, Template.parse_eq_verbatim hopen hclose]
  change links settings (Template.verbatim base) (some page) hasNext = _
  rw [links, pageTemplate_verbatim hnames]
  rfl

/-- The links of a page on a text without expressions are those to the pages announced, if their
numbers can be written. -/
theorem linksOn_eq_ok (hnames : settings.NamesParameters) (hopen : '{' ∉ base)
    (hclose : '}' ∉ base) {page : Page} {hasNext : Option Bool}
    (hlinkable : IsLinkable settings page (goesOn page hasNext)) :
    linksOn settings base page hasNext =
      .ok ((announced page (goesOn page hasNext)).map (literalLink settings base page.size)) := by
  obtain ⟨template, htemplate, hlinks⟩ := linksOn_eq_mapM hnames hopen hclose page hasNext
  obtain ⟨hsize, htargets⟩ := isLinkable_iff.mp hlinkable
  rw [hlinks, announced_eq, List.map_map, mapM_eq_ok_iff, List.forall₂_map_right_iff,
    List.forall₂_same]
  exact fun target htarget => pageLink_verbatim hnames htemplate hsize (htargets target htarget)

/-- There are no links if one of the numbers has too many digits. -/
theorem linksOn_eq_longInteger (hnames : settings.NamesParameters) (hopen : '{' ∉ base)
    (hclose : '}' ∉ base) {page : Page} {hasNext : Option Bool}
    (hlong : ¬IsLinkable settings page (goesOn page hasNext)) :
    linksOn settings base page hasNext = .error .longInteger := by
  obtain ⟨template, htemplate, hlinks⟩ := linksOn_eq_mapM hnames hopen hclose page hasNext
  obtain ⟨template', htemplate', hreadable, hpage, hsize⟩ :=
    exists_pageTemplate hnames.page hnames.size (Template.parse_eq_verbatim hopen hclose)
  cases htemplate.symm.trans htemplate'
  have hmem : ∃ target ∈ targets page (goesOn page hasNext),
      ¬(Decimal.IsWritable page.size ∧ Decimal.IsWritable (shown settings target.2)) := by
    by_cases hs : Decimal.IsWritable page.size
    · have hshown : ¬∀ target ∈ targets page (goesOn page hasNext),
          Decimal.IsWritable (shown settings target.2) :=
        fun hall => hlong (isLinkable_iff.mpr ⟨hs, hall⟩)
      simp only [not_forall] at hshown
      obtain ⟨target, htarget, hwritable⟩ := hshown
      exact ⟨target, htarget, fun h => hwritable h.2⟩
    · exact ⟨(Relation.self, page.number), by simp [targets], fun h => hs h.1⟩
  obtain ⟨target, htarget, hwritable⟩ := hmem
  rw [hlinks]
  refine mapM_pageLink_eq_longInteger hreadable hpage hsize htarget fun hshow => hwritable ?_
  exact ⟨hshow.1, hshow.2 hnames.distinct⟩

private theorem filter_ite {p : Prop} [Decidable p] (target : Relation × ℤ) (rel : Relation) :
    (if p then [target] else []).filter (fun lead => lead.1.sameAs rel) =
      if target.1.sameAs rel = true ∧ p then [target] else [] := by
  by_cases hp : p <;> by_cases hrel : target.1.sameAs rel = true <;> simp [hp, hrel]

private theorem filter_last (page : Page) (next : Bool) {rel : Relation}
    (hrel : Relation.last.sameAs rel = false) :
    List.filter (fun target : Relation × ℤ => target.1.sameAs rel) (match page.totalPages with
      | some count =>
        if (0 < page.number ∨ next = true) ∧ 0 < count then [(Relation.last, (count : ℤ) - 1)]
        else []
      | none => []) = [] := by
  cases page.totalPages with
  | none => rfl
  | some count => rw [filter_ite, hrel, if_neg fun h => Bool.false_ne_true h.1]

/-- One page is announced as the next one, if there is one. -/
theorem filter_next_announced (page : Page) (next : Bool) :
    (announced page next).filter (fun target => target.1.sameAs Relation.next) =
      if next = true then [(Relation.next, (page.number : ℤ) + 1)] else [] := by
  have hlast : Relation.last.sameAs Relation.next = false := by decide +kernel
  simp +decide only [announced, List.filter_append, filter_ite, filter_last page next hlast,
    List.filter_cons, List.filter_nil, false_and, true_and, if_false, List.nil_append,
    List.append_nil]

/-- One page is announced as the one before, if there is one. -/
theorem filter_prev_announced (page : Page) (next : Bool) :
    (announced page next).filter (fun target => target.1.sameAs Relation.prev) =
      if 0 < page.number then [(Relation.prev, (page.number : ℤ) - 1)] else [] := by
  have hlast : Relation.last.sameAs Relation.prev = false := by decide +kernel
  simp +decide only [announced, List.filter_append, filter_ite, filter_last page next hlast,
    List.filter_cons, List.filter_nil, false_and, true_and, if_false, List.nil_append,
    List.append_nil]

/-- Pages are announced under different relations. -/
theorem pairwise_announced (page : Page) (next : Bool) :
    (announced page next).Pairwise fun k l => k.1.sameAs l.1 = false := by
  have hrelations : [Relation.first, Relation.prev, Relation.self, Relation.next,
      Relation.last].Pairwise fun r s => r.sameAs s = false := by decide +kernel
  have hite : ∀ (p : Prop) [Decidable p] (target : Relation × ℤ),
      (if p then [target] else []).Sublist [target] := by
    intro p _ target
    split
    · exact List.Sublist.refl _
    · exact List.nil_sublist _
  have hlast : (match page.totalPages with
      | some count =>
        if (0 < page.number ∨ next = true) ∧ 0 < count then [(Relation.last, (count : ℤ) - 1)]
        else []
      | none => []).Sublist [(Relation.last, (page.totalPages.getD 0 : ℤ) - 1)] := by
    cases page.totalPages with
    | none => exact List.nil_sublist _
    | some count => exact hite _ _
  have hsublist : (announced page next).Sublist [(Relation.first, 0),
      (Relation.prev, (page.number : ℤ) - 1), (Relation.self, (page.number : ℤ)),
      (Relation.next, (page.number : ℤ) + 1),
      (Relation.last, (page.totalPages.getD 0 : ℤ) - 1)] :=
    ((((hite _ _).append (hite _ _)).append (List.Sublist.refl _)).append (hite _ _)).append hlast
  exact List.pairwise_map.mp (hrelations.sublist (hsublist.map Prod.fst))

/-- No two of the links count as equal, because they are under different relations. -/
theorem pairwise_literalLinks (settings : Settings) (base : Text) (size : ℕ) (page : Page)
    (next : Bool) :
    ((announced page next).map (literalLink settings base size)).Pairwise
      fun k l => k.sameAs l = false := by
  rw [List.pairwise_map]
  refine (pairwise_announced page next).imp fun {k l} hkl => ?_
  refine Bool.eq_false_iff.mpr fun hsame => ?_
  have hrel : k.1.sameAs l.1 = true := Link.rel_sameAs_of_sameAs hsame
  rw [hkl] at hrel
  cases hrel

/-- Links of which no two count as equal are those of a representation without links that they
are added to. -/
theorem links_add {m : Representation} (hm : m.links = []) {ls : List Link}
    (hls : ls.Pairwise fun k l => k.sameAs l = false) : (m.add ls).links = ls := by
  have hadd : (m.add ls).links = OrderedSet.insertAll Link.sameAs m.links ls := rfl
  rw [hadd, hm, OrderedSet.insertAll_of_pairwise (by simpa using hls), List.nil_append]

/-- The first link of a relation among the links of a page leads to the first page that is
announced under it. -/
theorem link?_eq {m : Representation} {size : ℕ} {leads : List (Relation × ℤ)}
    (hm : m.links = leads.map (literalLink settings base size)) (rel : Relation) :
    m.link? (some (.made rel)) =
      .ok ((leads.filter fun target => target.1.sameAs rel).head?.map
        (literalLink settings base size)) := by
  rw [← List.head?_map]
  have hfilter : m.links.filter (fun l => l.rel.sameAs rel) =
      (leads.filter fun target => target.1.sameAs rel).map (literalLink settings base size) := by
    rw [hm, List.filter_map]
    rfl
  rw [← hfilter]
  rfl

/-- A page without links answers the links to the pages around it once they are added. -/
theorem answers_add {m : Representation} (hpage : m.payload.isPage = true) (hm : m.links = [])
    (settings : Settings) (base : Text) (size : ℕ) (page : Page) (next : Bool) :
    let ls := (announced page next).map (literalLink settings base size)
    (m.add ls).links = ls ∧
      (m.add ls).nextLink? = .ok (if next = true then
        some (literalLink settings base size (Relation.next, (page.number : ℤ) + 1)) else none) ∧
      (m.add ls).previousLink? = .ok (if 0 < page.number then
          some (literalLink settings base size (Relation.prev, (page.number : ℤ) - 1))
        else none) := by
  intro ls
  have hlinks : (m.add ls).links = ls :=
    links_add hm (pairwise_literalLinks settings base size page next)
  have hpage : (m.add ls).payload.isPage = true := hpage
  refine ⟨hlinks, ?_, ?_⟩
  · rw [Representation.nextLink?, if_pos hpage, link?_eq hlinks, filter_next_announced]
    split <;> rfl
  · rw [Representation.previousLink?, if_pos hpage, link?_eq hlinks, filter_prev_announced]
    split <;> rfl

/-- On a text without expressions there is one link to each announced page, in order, if its numbers
can be written. -/
theorem linksOn_literal (hnames : settings.NamesParameters) (hopen : '{' ∉ base)
    (hclose : '}' ∉ base) (page : Page) (hasNext : Option Bool) :
    let next := goesOn page hasNext
    let ls := (announced page next).map (literalLink settings base page.size)
    (IsLinkable settings page next → linksOn settings base page hasNext = .ok ls) ∧
      (¬IsLinkable settings page next →
        linksOn settings base page hasNext = .error .longInteger) ∧
      (∀ target ∈ announced page next, 0 ≤ target.2) ∧
      ∀ m : Representation, m.payload.isPage = true → m.links = [] →
        (m.add ls).links = ls ∧
          (m.add ls).nextLink? = .ok (if next = true then
            some (literalLink settings base page.size (Relation.next, (page.number : ℤ) + 1))
            else none) ∧
          (m.add ls).previousLink? = .ok (if 0 < page.number then
            some (literalLink settings base page.size (Relation.prev, (page.number : ℤ) - 1))
            else none) := by
  intro next ls
  refine ⟨linksOn_eq_ok hnames hopen hclose, linksOn_eq_longInteger hnames hopen hclose,
    announced_nonneg page next, fun m hpage hm => ?_⟩
  exact answers_add hpage hm settings base page.size page next

/-- The second of three pages, numbered from one, on a base with a query. -/
theorem linksOn_literal_query :
    ∃ (settings : Settings) (page : Page) (ls : List Link) (m : Representation),
      settings.oneIndexed = true ∧ Page.ofFields page.fields = .ok page ∧
      linksOn settings "/a?b=c".toList page none = .ok ls ∧
      ls.map (fun l => (l.rel, l.href)) =
        [(Relation.first, "/a?b=c&page=1&size=20".toList),
          (Relation.prev, "/a?b=c&page=1&size=20".toList),
          (Relation.self, "/a?b=c&page=2&size=20".toList),
          (Relation.next, "/a?b=c&page=3&size=20".toList),
          (Relation.last, "/a?b=c&page=3&size=20".toList)] ∧
      m.payload.isPage = true ∧ (m.add ls).links = ls ∧
      ∃ l, (m.add ls).nextLink? = .ok (some l) ∧ l ∈ ls := by
  let settings : Settings := { oneIndexed := true }
  let page : Page := ⟨20, 1, some 41, some 3⟩
  let m : Representation := ⟨.paged [] none (some page), [], .null⟩
  have hnames : settings.NamesParameters := ⟨by decide, by decide, by decide⟩
  have hpage : Page.ofFields page.fields = .ok page := by rfl
  have hopen : '{' ∉ "/a?b=c".toList := by decide
  have hclose : '}' ∉ "/a?b=c".toList := by decide
  obtain ⟨hlinks, -, -, hadd⟩ := linksOn_literal hnames hopen hclose page none
  obtain ⟨hkept, hnext, -⟩ := hadd m rfl rfl
  have hlinkable : IsLinkable settings page (goesOn page none) := by
    unfold IsLinkable
    decide +kernel
  refine ⟨settings, page, _, m, rfl, hpage, hlinks hlinkable, by decide +kernel, rfl, hkept, _,
    hnext, ?_⟩
  decide +kernel

private theorem next_mem_announced (page : Page) :
    (Relation.next, (page.number : ℤ) + 1) ∈ announced page true := by
  simp [announced]

/-- The number of as many digits as can be written: the next one cannot. -/
theorem exists_linksOn_eq_longInteger :
    ∃ page : Page, page.number = 10 ^ 4300 - 1 ∧ Page.ofFields page.fields = .ok page ∧
      Settings.NamesParameters {} ∧ '{' ∉ "/p".toList ∧ '}' ∉ "/p".toList ∧
      linksOn {} "/p".toList page (some true) = .error .longInteger := by
  let page : Page := ⟨1, 10 ^ Decimal.digitLimit - 1, none, none⟩
  have hnames : Settings.NamesParameters {} := ⟨by decide, by decide, by decide⟩
  have hconsistent : page.IsConsistent := ⟨(fun _ h => by cases h), rfl⟩
  have hlimit : Decimal.digitLimit = 4300 := rfl
  have hnumber : 10 ^ Decimal.digitLimit - 1 = 10 ^ 4300 - 1 := by rw [hlimit]
  refine ⟨page, hnumber, hconsistent.ofFields_fields, hnames, by decide, by decide, ?_⟩
  refine linksOn_eq_longInteger hnames (by decide) (by decide) fun hlinkable => ?_
  have hwritable := hlinkable.2 _ (next_mem_announced page)
  have hpos : 0 < 10 ^ Decimal.digitLimit := Nat.pow_pos (by decide)
  unfold Decimal.IsWritable offset at hwritable
  simp only [page] at hwritable
  omega

end Pagination

end WebLinking
