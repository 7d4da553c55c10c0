import Mathlib.Algebra.Order.Floor.Div
import WebLinking.Pagination
import WebLinking.Proofs.Link.Expansion
import WebLinking.Proofs.Page.Derivation
import WebLinking.Proofs.Template.Numbers

/-!
# Links between the pages of a result

The links of a page expand one template with one size and with the numbers of the pages that
they lead to, so links to one page have one target, whatever page they are on and whatever
their relation is. Where the elements of the result are counted, a page links to those around
it, to the first one and to the last one. The only obstacle is a number of too many digits, and
if it is met on one page then it is met on all of them.
-/

namespace WebLinking

namespace Page

/-- The fields that describe a page by its size, its number and the count of elements. -/
def countedFields (s n t : ℕ) : Fields := [
  (.text "size".toList, .nat s),
  (.text "number".toList, .nat n),
  (.text "total_elements".toList, .nat t)]

/-- The count of pages is the quotient of the count of elements by the size, rounded up. -/
theorem ofFields_countedFields {s : ℕ} (hs : 0 < s) (n t : ℕ) :
    ofFields (countedFields s n t) = .ok ⟨s, n, some t, some (t ⌈/⌉ s)⟩ := by
  have hnat : ∀ k : ℕ, (Value.nat k).asNatural = .sound k :=
    fun k => Value.asNatural_eq_sound_iff.mpr rfl
  have hleast : IsLeast {p : ℕ | t ≤ p * s} (t ⌈/⌉ s) := by
    have hle : ∀ p : ℕ, t ⌈/⌉ s ≤ p ↔ t ≤ p * s := by
      intro p
      rw [ceilDiv_le_iff_le_mul hs, Nat.mul_comm]
    exact ⟨(hle _).mp le_rfl, fun p hp => (hle p).mpr hp⟩
  have hsize : (countedFields s n t).get? "size".toList = some (.nat s) := rfl
  have hnumber : (countedFields s n t).get? "number".toList = some (.nat n) := rfl
  have helements : (countedFields s n t).get? "total_elements".toList = some (.nat t) := rfl
  refine (ofFields_eq_ok_iff_of_missing rfl hsize hnumber helements rfl).mpr
    ⟨⟨s, rfl⟩, ⟨t, rfl⟩, hnat s, hnat n, ?_⟩
  exact ⟨t, t ⌈/⌉ s, hnat t, rfl, rfl, (eq_pageCount_iff hs).mpr hleast⟩

end Page

/-- The parameters for page numbers and for page sizes have names, and not the same one. -/
structure Settings.NamesParameters (settings : Settings) : Prop where
  /-- The parameter for page numbers has a name. -/
  page : Variable.isName settings.pageParameter = true
  /-- The parameter for page sizes has a name. -/
  size : Variable.isName settings.sizeParameter = true
  /-- The names differ. -/
  distinct : settings.pageParameter ≠ settings.sizeParameter

namespace Pagination

variable {settings : Settings} {pattern : Text} {base template : Template} {s n k t count : ℕ}

/-- The number of a page as links show it. -/
def shown (settings : Settings) (n : ℕ) : ℕ := if settings.oneIndexed then n + 1 else n

/-- The variable of a query parameter that goes by a name. -/
def parameter (name : Text) : Variable := { name, kind := .requestParam }

/-- A name makes the variable of a query parameter. -/
theorem queryParameter_eq_ok {name : Text} (h : Variable.isName name = true) :
    queryParameter (.text name) = .ok (parameter name) :=
  Variable.check_eq_ok_iff.mpr ⟨⟨rfl, rfl, rfl, rfl, rfl⟩, h, rfl⟩

/-- A query parameter that goes by a name is written as the grammar writes names. -/
theorem wellFormed_parameter {name : Text} (h : Variable.isName name = true) :
    (parameter name).spec.IsWellFormed :=
  Variable.wellFormed_of_check (queryParameter_eq_ok h)

/-- The template of page links is the base with both parameters added, if they have names. -/
theorem pageTemplate_eq_ok (hpage : Variable.isName settings.pageParameter = true)
    (hsize : Variable.isName settings.sizeParameter = true) (base : Template) :
    pageTemplate settings base = .ok (base.withVariables
      [parameter settings.pageParameter, parameter settings.sizeParameter]) :=
  bind_eq_ok_iff.mpr ⟨_, queryParameter_eq_ok hpage,
    bind_eq_ok_iff.mpr ⟨_, queryParameter_eq_ok hsize, rfl⟩⟩

/-- A pattern and names for the parameters make a template for page links that is readable and
uses both names. -/
theorem exists_pageTemplate (hpage : Variable.isName settings.pageParameter = true)
    (hsize : Variable.isName settings.sizeParameter = true)
    (hbase : Template.parse pattern = .ok base) :
    ∃ template, pageTemplate settings base = .ok template ∧ template.IsReadable ∧
      template.Uses settings.pageParameter ∧ template.Uses settings.sizeParameter := by
  let vs := [parameter settings.pageParameter, parameter settings.sizeParameter]
  have hwellFormed : ∀ v ∈ vs, v.spec.IsWellFormed :=
    List.forall_mem_cons.mpr ⟨wellFormed_parameter hpage,
      List.forall_mem_singleton.mpr (wellFormed_parameter hsize)⟩
  have huses : ∀ v ∈ vs, (base.withVariables vs).Uses v.name := Template.uses_withVariables.1
  exact ⟨base.withVariables vs, pageTemplate_eq_ok hpage hsize base,
    (Template.IsReadable.of_parse hbase).withVariables hwellFormed,
    huses (parameter settings.pageParameter) (by simp [vs]),
    huses (parameter settings.sizeParameter) (by simp [vs])⟩

/-- The values for a page link are its size and its number under their names, and nothing
else. -/
theorem effective_bindings (settings : Settings) (n s : ℕ) (name : Text) :
    Bindings.effective (bindings settings n s) [] name =
      if name = settings.sizeParameter then .nat s
      else if name = settings.pageParameter then .nat (shown settings n) else .null := by
  simp only [Bindings.effective, bindings, shown, List.lookup_nil, List.lookup_cons]
  by_cases hsize : name = settings.sizeParameter
  · rw [if_pos hsize, beq_iff_eq.mpr hsize]
    rfl
  · rw [if_neg hsize, beq_eq_false_iff_ne.mpr hsize]
    by_cases hpage : name = settings.pageParameter
    · rw [if_pos hpage, beq_iff_eq.mpr hpage]
      rfl
    · rw [if_neg hpage, beq_eq_false_iff_ne.mpr hpage]
      rfl

/-- The values for a page link are numbers. -/
theorem isNumeric_bindings (settings : Settings) (n s : ℕ) :
    Template.IsNumeric (Bindings.effective (bindings settings n s) []) := by
  intro name
  rw [effective_bindings]
  split
  · exact Or.inr ⟨s, rfl⟩
  · split
    · exact Or.inr ⟨_, rfl⟩
    · exact Or.inl rfl

/-- The size can be written and, unless both parameters go by one name, the number of the page. -/
def CanShow (settings : Settings) (s n : ℕ) : Prop :=
  Decimal.IsWritable s ∧
    (settings.pageParameter ≠ settings.sizeParameter → Decimal.IsWritable (shown settings n))

/-- A page link can be written if the numbers that it shows can. -/
theorem exists_pageLink (htemplate : template.IsReadable)
    (huses : template.Uses settings.sizeParameter) (hshow : CanShow settings s n) :
    ∃ href, href ≠ [] ∧ template.expand (bindings settings n s) [] = .ok href ∧
      ∀ rel, pageLink settings template s (rel, n) = .ok { href, rel } := by
  have hvalue : Bindings.effective (bindings settings n s) [] settings.sizeParameter = .nat s := by
    rw [effective_bindings, if_pos rfl]
  have hwritable : ∀ name k, Bindings.effective (bindings settings n s) [] name = .nat k →
      Decimal.IsWritable k := by
    intro name k hk
    rw [effective_bindings] at hk
    split at hk
    · cases hk
      exact hshow.1
    · rename_i hname
      split at hk
      · rename_i hpage
        cases hk
        exact hshow.2 (hpage ▸ hname)
      · cases hk
  obtain ⟨href, hexpand, hne⟩ := Template.exists_expandWith_of_isWritable htemplate huses
    (isNumeric_bindings settings n s) hvalue hwritable
  exact ⟨href, hne, hexpand, fun rel =>
    bind_eq_ok_iff.mpr ⟨href, hexpand, Link.of_text hne rfl⟩⟩

/-- A page link that shows a number of too many digits cannot be written. -/
theorem pageLink_eq_longInteger (hpage : template.Uses settings.pageParameter)
    (hsize : template.Uses settings.sizeParameter) (hshow : ¬CanShow settings s n)
    (rel : Relation) : pageLink settings template s (rel, n) = .error .longInteger := by
  have hnumeric := isNumeric_bindings settings n s
  have hexpand : template.expand (bindings settings n s) [] = .error .longInteger := by
    by_cases hs : Decimal.IsWritable s
    · obtain ⟨hdistinct, hn⟩ : settings.pageParameter ≠ settings.sizeParameter ∧
          ¬Decimal.IsWritable (shown settings n) := by
        simpa only [CanShow, hs, true_and, Classical.not_imp] using hshow
      refine Template.expandWith_eq_longInteger hpage hnumeric ?_ hn
      rw [effective_bindings, if_neg hdistinct, if_pos rfl]
    · refine Template.expandWith_eq_longInteger hsize hnumeric ?_ hs
      rw [effective_bindings, if_pos rfl]
  exact bind_eq_error_iff.mpr (Or.inl hexpand)

/-- No links can be written if one of them shows a number of too many digits. -/
theorem mapM_pageLink_eq_longInteger (htemplate : template.IsReadable)
    (hpage : template.Uses settings.pageParameter) (hsize : template.Uses settings.sizeParameter)
    {leads : List (Relation × ℕ)} {target : Relation × ℕ} (htarget : target ∈ leads)
    (hshow : ¬CanShow settings s target.2) :
    leads.mapM (pageLink settings template s) = .error .longInteger := by
  cases hlinks : leads.mapM (pageLink settings template s) with
  | error fault =>
    obtain ⟨⟨rel, k⟩, -, hk⟩ := exists_mem_of_mapM_eq_error hlinks
    by_cases hshow : CanShow settings s k
    · obtain ⟨href, -, -, hhref⟩ := exists_pageLink htemplate hsize hshow
      rw [hhref] at hk
      cases hk
    · rw [pageLink_eq_longInteger hpage hsize hshow] at hk
      cases hk
      rfl
  | ok ls =>
    obtain ⟨l, -, hl⟩ := exists_result_of_mapM_eq_ok hlinks htarget
    rw [pageLink_eq_longInteger hpage hsize hshow] at hl
    cases hl

/-- A page of a counted result links to itself, to those around it, and to the first and the last
one. -/
theorem targets_of_lt (hn : n < count) :
    targets ⟨s, n, some t, some count⟩ (n + 1 < count) =
      (if 1 < count then [(Relation.first, 0)] else []) ++
        (if 0 < n then [(Relation.prev, n - 1)] else []) ++ [(Relation.self, n)] ++
        (if n + 1 < count then [(Relation.next, n + 1)] else []) ++
        (if 1 < count then [(Relation.last, count - 1)] else []) := by
  have hnavigable : (decide (0 < n) || decide (n + 1 < count)) = decide (1 < count) := by
    rw [← Bool.decide_or, decide_eq_decide]
    omega
  have hlast : (count != 0) = true := bne_iff_ne.mpr (by omega)
  simp [targets, Page.hasPrevious, hnavigable, hlast]

/-- The links of the page of a number in a result that is counted. -/
def linksAt (settings : Settings) (base : Template) (s t n : ℕ) : Except Fault (List Link) := do
  let page ← Page.ofFields (Page.countedFields s n t)
  links settings base (some page) none

/-- The links of a page are those to its targets. -/
theorem linksAt_eq_mapM (hs : 0 < s) (htemplate : pageTemplate settings base = .ok template)
    (n t : ℕ) :
    linksAt settings base s t n =
      (targets ⟨s, n, some t, some (t ⌈/⌉ s)⟩ (n + 1 < t ⌈/⌉ s)).mapM
        (pageLink settings template s) := by
  rw [linksAt, Page.ofFields_countedFields hs]
  change links settings base (some _) none = _
  rw [links, htemplate]
  rfl

/-- The targets of the links of a relation. -/
def hrefs (ls : List Link) (rel : Relation) : List Text :=
  (ls.filter fun l => l.rel.sameAs rel).map Link.href

/-- The links of a page among several lead to itself, to those around it, and to the first and the
last one. -/
structure LeadAround (href : ℕ → Text) (count n : ℕ) (ls : List Link) : Prop where
  /-- One link leads to the page itself. -/
  self : hrefs ls Relation.self = [href n]
  /-- One link leads to the next page, if there is one. -/
  next : hrefs ls Relation.next = if n + 1 < count then [href (n + 1)] else []
  /-- One link leads to the page before, if there is one. -/
  prev : hrefs ls Relation.prev = if 0 < n then [href (n - 1)] else []
  /-- One link leads to the first of several pages. -/
  first : hrefs ls Relation.first = if 1 < count then [href 0] else []
  /-- One link leads to the last of several pages. -/
  last : hrefs ls Relation.last = if 1 < count then [href (count - 1)] else []

private theorem hrefs_append (ls ms : List Link) (rel : Relation) :
    hrefs (ls ++ ms) rel = hrefs ls rel ++ hrefs ms rel := by
  rw [hrefs, List.filter_append, List.map_append]
  rfl

private theorem hrefs_ite {p : Prop} [Decidable p] (l : Link) (rel : Relation) :
    hrefs (if p then [l] else []) rel = if p ∧ l.rel.sameAs rel then [l.href] else [] := by
  by_cases hp : p <;> cases hrel : l.rel.sameAs rel <;> simp [hrefs, hp, hrel]

/-- Links to the targets of a page lead around. -/
theorem leadAround_targets (href : ℕ → Text) (s t : ℕ) (hn : n < count) :
    LeadAround href count n
      ((targets ⟨s, n, some t, some count⟩ (n + 1 < count)).map fun target =>
        { href := href target.2, rel := target.1 }) := by
  let link (target : Relation × ℕ) : Link := { href := href target.2, rel := target.1 }
  have hself : [link (Relation.self, n)] = if True then [link (Relation.self, n)] else [] :=
    (if_pos trivial).symm
  have hlinks : ∀ rel, hrefs ((targets ⟨s, n, some t, some count⟩ (n + 1 < count)).map link) rel =
      (if 1 < count ∧ Relation.first.sameAs rel then [href 0] else []) ++
        (if 0 < n ∧ Relation.prev.sameAs rel then [href (n - 1)] else []) ++
        (if Relation.self.sameAs rel then [href n] else []) ++
        (if n + 1 < count ∧ Relation.next.sameAs rel then [href (n + 1)] else []) ++
        (if 1 < count ∧ Relation.last.sameAs rel then [href (count - 1)] else []) := by
    intro rel
    simp only [targets_of_lt hn, List.map_append, apply_ite (List.map link), List.map_singleton,
      List.map_nil, hrefs_append, hrefs_ite]
    rw [hself, hrefs_ite]
    simp only [true_and]
    rfl
  constructor
  all_goals
    refine (hlinks _).trans ?_
    simp +decide

/-- No target of a page of a counted result is past its last page. -/
theorem lt_of_mem_targets (hn : n < count) {target : Relation × ℕ}
    (h : target ∈ targets ⟨s, n, some t, some count⟩ (n + 1 < count)) : target.2 < count := by
  rw [targets_of_lt hn] at h
  simp only [List.mem_append, List.mem_ite_nil_right, List.mem_singleton] at h
  rcases h with (((⟨-, rfl⟩ | ⟨-, rfl⟩) | rfl) | ⟨hnext, rfl⟩) | ⟨-, rfl⟩
  · exact Nat.zero_lt_of_lt hn
  · exact Nat.lt_of_le_of_lt (Nat.sub_le n 1) hn
  · exact hn
  · exact hnext
  · exact Nat.sub_one_lt_of_lt hn

/-- The last page of a counted result is among the targets of every page. -/
theorem exists_mem_targets (s t : ℕ) (hn : n < count) :
    ∃ rel, (rel, count - 1) ∈ targets ⟨s, n, some t, some count⟩ (n + 1 < count) := by
  rw [targets_of_lt hn]
  by_cases hone : 1 < count
  · exact ⟨Relation.last, by simp [hone]⟩
  · obtain rfl : n = count - 1 := by omega
    exact ⟨Relation.self, by simp⟩

/-- The links of all pages of a counted result can be written: the size, and the greatest
number that a link shows. -/
def IsWritable (settings : Settings) (s count : ℕ) : Prop :=
  Decimal.IsWritable s ∧ Decimal.IsWritable (shown settings (count - 1))

/-- The number of every page can be shown if the greatest one can. -/
theorem IsWritable.shown (h : IsWritable settings s count) (hn : n < count) :
    Decimal.IsWritable (shown settings n) := by
  refine h.2.mono ?_
  unfold Pagination.shown
  split <;> omega

/-- The links can be written if the size and the count of elements can. -/
theorem isWritable_ceilDiv (hs : 0 < s) (ht : 0 < t) (hsize : Decimal.IsWritable s)
    (helements : Decimal.IsWritable t) : IsWritable settings s (t ⌈/⌉ s) := by
  have hle : t ⌈/⌉ s ≤ t := (ceilDiv_le_iff_le_mul hs).mpr (Nat.le_mul_of_pos_left t hs)
  refine ⟨hsize, helements.mono ?_⟩
  unfold Pagination.shown
  split <;> omega

/-- The links of the pages of a counted result lead around, if they can be written. -/
theorem exists_linksAt (hnames : settings.NamesParameters)
    (hbase : Template.parse pattern = .ok base) (hs : 0 < s)
    (hwritable : IsWritable settings s (t ⌈/⌉ s)) :
    ∃ template href, pageTemplate settings base = .ok template ∧
      ∀ n < t ⌈/⌉ s, template.expand (bindings settings n s) [] = .ok (href n) ∧
        ∃ ls, linksAt settings base s t n = .ok ls ∧ LeadAround href (t ⌈/⌉ s) n ls := by
  obtain ⟨template, htemplate, hreadable, -, huses⟩ :=
    exists_pageTemplate hnames.page hnames.size hbase
  have hlink : ∀ k, ∃ href, k < t ⌈/⌉ s →
      template.expand (bindings settings k s) [] = .ok href ∧
        ∀ rel, pageLink settings template s (rel, k) = .ok { href, rel } := by
    intro k
    by_cases hk : k < t ⌈/⌉ s
    · obtain ⟨href, -, h⟩ := exists_pageLink hreadable huses
        ⟨hwritable.1, fun _ => hwritable.shown hk⟩
      exact ⟨href, fun _ => h⟩
    · exact ⟨[], fun h => absurd h hk⟩
  choose href hhref using hlink
  refine ⟨template, href, htemplate, fun n hn => ⟨(hhref n hn).1, _, ?_,
    leadAround_targets href s t hn⟩⟩
  rw [linksAt_eq_mapM hs htemplate, mapM_eq_ok_iff, List.forall₂_map_right_iff, List.forall₂_same]
  intro target htarget
  exact (hhref target.2 (lt_of_mem_targets hn htarget)).2 target.1

/-- No page of a counted result has links if they cannot be written. -/
theorem linksAt_eq_longInteger (hnames : settings.NamesParameters)
    (hbase : Template.parse pattern = .ok base) (hs : 0 < s)
    (hlong : ¬IsWritable settings s (t ⌈/⌉ s)) (hn : n < t ⌈/⌉ s) :
    linksAt settings base s t n = .error .longInteger := by
  obtain ⟨template, htemplate, hreadable, hpage, hsize⟩ :=
    exists_pageTemplate hnames.page hnames.size hbase
  obtain ⟨rel, hlast⟩ := exists_mem_targets s t hn
  rw [linksAt_eq_mapM hs htemplate]
  refine mapM_pageLink_eq_longInteger hreadable hpage hsize hlast fun hshow => hlong ?_
  exact ⟨hshow.1, hshow.2 hnames.distinct⟩

end Pagination

end WebLinking
