import Mathlib.Data.List.Intervals
import WebLinking.Proofs.Pagination.Links

/-!
# Walks through the pages of a result

Whoever follows the links to the next page from the first page of a result on sees each page
once and comes to an end, and the elements of these pages are all elements of the result in
order.
-/

namespace WebLinking.Pagination

variable {settings : Settings} {pattern : Text} {base : Template} {s n k t : ℕ}

/-- A page precedes the one that its link to the next page is made for. -/
def Precedes (s t n m : ℕ) : Prop :=
  ∃ page, Page.ofFields (Page.countedFields s n t) = .ok page ∧
    (Relation.next, m) ∈ targets page (page.hasNext.getD false)

/-- The pages that are visited from one page on as long as there is a link to a next page. -/
inductive Visits (settings : Settings) (base : Template) (s t : ℕ) : ℕ → List ℕ → Prop
  /-- The page has no link to a next page. -/
  | stop {n : ℕ} {ls : List Link} (hlinks : linksAt settings base s t n = .ok ls)
      (hnone : hrefs ls Relation.next = []) : Visits settings base s t n [n]
  /-- The page has such a link. -/
  | step {n m : ℕ} {ls ls' : List Link} {target : Text} {pages : List ℕ}
      (hlinks : linksAt settings base s t n = .ok ls) (hnext : hrefs ls Relation.next = [target])
      (hprecedes : Precedes s t n m) (hlinks' : linksAt settings base s t m = .ok ls')
      (hself : hrefs ls' Relation.self = [target]) (hvisits : Visits settings base s t m pages) :
      Visits settings base s t n (n :: pages)

/-- The link to the next page is made for the page with the number after this one. -/
theorem precedes_iff {m : ℕ} (hs : 0 < s) (hn : n < t ⌈/⌉ s) :
    Precedes s t n m ↔ m = n + 1 ∧ n + 1 < t ⌈/⌉ s := by
  have htargets := targets_of_lt (s := s) (t := t) hn
  have hpage := Page.ofFields_countedFields hs n t
  constructor
  · rintro ⟨page, hpage', hmem⟩
    cases hpage.symm.trans hpage'
    have hmem : (Relation.next, m) ∈ targets ⟨s, n, some t, some (t ⌈/⌉ s)⟩
      (n + 1 < t ⌈/⌉ s) := hmem
    rw [htargets] at hmem
    simp +decide only [List.mem_append, List.mem_ite_nil_right, List.mem_singleton,
      Prod.mk.injEq, false_and, and_false, false_or, or_false, true_and] at hmem
    exact hmem.symm
  · rintro ⟨rfl, hnext⟩
    refine ⟨_, hpage, ?_⟩
    change (Relation.next, n + 1) ∈ targets ⟨s, n, some t, some (t ⌈/⌉ s)⟩ (n + 1 < t ⌈/⌉ s)
    rw [htargets]
    simp [hnext]

/-- Where the links lead around, all pages from one on are visited in order. -/
theorem visits_iff {href : ℕ → Text} (hs : 0 < s)
    (hlinks : ∀ n < t ⌈/⌉ s, ∃ ls, linksAt settings base s t n = .ok ls ∧
      LeadAround href (t ⌈/⌉ s) n ls) (hn : n < t ⌈/⌉ s) {pages : List ℕ} :
    Visits settings base s t n pages ↔ pages = List.Ico n (t ⌈/⌉ s) := by
  obtain ⟨ls, hls, haround⟩ := hlinks n hn
  obtain ⟨left, hleft⟩ := Nat.exists_eq_add_of_lt hn
  induction left generalizing n pages ls with
  | zero =>
    have hlast : t ⌈/⌉ s = n + 1 := hleft
    have hnone : hrefs ls Relation.next = [] := by
      rw [haround.next, if_neg (by omega)]
    rw [hlast, List.Ico.succ_singleton]
    constructor
    · rintro (_ | ⟨-, -, hprecedes, -, -, -⟩)
      · rfl
      · have := ((precedes_iff hs hn).mp hprecedes).2
        omega
    · rintro rfl
      exact .stop hls hnone
  | succ left ih =>
    have hlt : n + 1 < t ⌈/⌉ s := by omega
    have hnext : hrefs ls Relation.next = [href (n + 1)] := by rw [haround.next, if_pos hlt]
    obtain ⟨ls', hls', haround'⟩ := hlinks (n + 1) hlt
    have hrest : ∀ {rest : List ℕ}, Visits settings base s t (n + 1) rest ↔
        rest = List.Ico (n + 1) (t ⌈/⌉ s) := ih hlt ls' hls' haround' (by omega)
    rw [List.Ico.eq_cons hn]
    constructor
    · intro hvisits
      cases hvisits with
      | stop hlinks hnone =>
        cases hls.symm.trans hlinks
        cases hnext.symm.trans hnone
      | step _ _ hprecedes _ _ hvisits =>
        obtain ⟨rfl, -⟩ := (precedes_iff hs hn).mp hprecedes
        rw [hrest.mp hvisits]
    · rintro rfl
      exact .step hls hnext ((precedes_iff hs hn).mpr ⟨rfl, hlt⟩) hls' haround'.self
        (hrest.mpr rfl)

/-- The indices of the elements of a page. -/
def indices (s t n : ℕ) : List ℕ := List.Ico (n * s) (min ((n + 1) * s) t)

/-- A page of the result begins before the end of the result. -/
theorem lt_ceilDiv_iff (hs : 0 < s) : n < t ⌈/⌉ s ↔ n * s < t := by
  rw [← not_le, ceilDiv_le_iff_le_mul hs, not_le, Nat.mul_comm]

/-- Every page has elements. -/
theorem mul_lt_min (hs : 0 < s) (hn : n < t ⌈/⌉ s) : n * s < min ((n + 1) * s) t :=
  lt_min (Nat.mul_lt_mul_of_pos_right (Nat.lt_succ_self n) hs) ((lt_ceilDiv_iff hs).mp hn)

/-- The elements of some pages from the first one on are elements from the first one on. -/
theorem flatMap_indices (hs : 0 < s) (hk : k ≤ t ⌈/⌉ s) :
    (List.range k).flatMap (indices s t) = List.range (min (k * s) t) := by
  induction k with
  | zero => simp
  | succ k ih =>
    have hbegin : min (k * s) t = k * s := min_eq_left ((lt_ceilDiv_iff hs).mp hk).le
    rw [List.range_succ, List.flatMap_append, List.flatMap_singleton, ih (Nat.le_of_succ_le hk),
      hbegin, ← List.Ico.zero_bot, ← List.Ico.zero_bot, indices]
    exact List.Ico.append_consecutive (Nat.zero_le _) (mul_lt_min hs hk).le

/-- The pages of a counted result make a walk, if their numbers can be written, and share out its
elements in order. -/
theorem linksAt_walk (hnames : settings.NamesParameters)
    (hbase : Template.parse pattern = .ok base) (hs : 0 < s) (ht : 0 < t) :
    (IsWritable settings s (t ⌈/⌉ s) → ∃ template href,
        pageTemplate settings base = .ok template ∧
        (∀ n < t ⌈/⌉ s, template.expand (bindings settings n s) [] = .ok (href n) ∧
          ∃ ls, linksAt settings base s t n = .ok ls ∧ LeadAround href (t ⌈/⌉ s) n ls) ∧
        ∀ pages, Visits settings base s t 0 pages ↔ pages = List.range (t ⌈/⌉ s)) ∧
      (Decimal.IsWritable s → Decimal.IsWritable t → IsWritable settings s (t ⌈/⌉ s)) ∧
      (¬IsWritable settings s (t ⌈/⌉ s) →
        ∀ n < t ⌈/⌉ s, linksAt settings base s t n = .error .longInteger) ∧
      (∀ n < t ⌈/⌉ s, n * s < min ((n + 1) * s) t) ∧
      (List.range (t ⌈/⌉ s)).flatMap (indices s t) = List.range t := by
  have hpages : 0 < t ⌈/⌉ s := (lt_ceilDiv_iff hs).mpr (by rwa [Nat.zero_mul])
  refine ⟨fun hwritable => ?_, isWritable_ceilDiv hs ht,
    fun hlong n => linksAt_eq_longInteger hnames hbase hs hlong, fun n => mul_lt_min hs, ?_⟩
  · obtain ⟨template, href, htemplate, hlinks⟩ := exists_linksAt hnames hbase hs hwritable
    refine ⟨template, href, htemplate, hlinks, fun pages => ?_⟩
    rw [visits_iff hs (fun n hn => (hlinks n hn).2) hpages, List.Ico.zero_bot]
  · have hend : min (t ⌈/⌉ s * s) t = t := by
      rw [min_eq_right_iff, Nat.mul_comm]
      exact (ceilDiv_le_iff_le_mul hs).mp le_rfl
    rw [flatMap_indices hs le_rfl, hend]

/-- A result of 41 elements on pages of 20, which are counted from one and stand in the path. -/
theorem linksAt_walk_path :
    ∃ (settings : Settings) (base : Template) (href : ℕ → Text) (ls : List Link),
      settings.oneIndexed = true ∧
      Template.parse "/orders/\x7bpage:1\x7d\x7b?q\x7d".toList = .ok base ∧
      href 0 = "/orders/1?size=20".toList ∧ href 2 = "/orders/3?size=20".toList ∧
      linksAt settings base 20 41 1 = .ok ls ∧ LeadAround href 3 1 ls ∧
      (∀ pages, Visits settings base 20 41 0 pages ↔ pages = [0, 1, 2]) ∧
      indices 20 41 2 = [40] := by
  let settings : Settings := { oneIndexed := true }
  let base : Template := ⟨[.literal "/orders/".toList,
    .group ⟨.simple, [{ name := "page".toList, kind := .simple, maxLength := some 1 }]⟩,
    .group ⟨.query, [{ name := "q".toList, kind := .requestParam }]⟩]⟩
  have hnames : settings.NamesParameters := ⟨by decide, by decide, by decide⟩
  have hbase : Template.parse "/orders/\x7bpage:1\x7d\x7b?q\x7d".toList = .ok base := by
    decide +kernel
  obtain ⟨hwalk, hwritable, -⟩ :=
    linksAt_walk (s := 20) (t := 41) hnames hbase (by decide) (by decide)
  obtain ⟨template, href, htemplate, hlinks, hvisits⟩ :=
    hwalk (hwritable (by decide +kernel) (by decide +kernel))
  have hhref : ∀ n < 3, ∀ u,
      (do (← pageTemplate settings base).expand (bindings settings n 20) []) = .ok u →
        href n = u := by
    intro n hn u hu
    rw [htemplate] at hu
    exact Except.ok.inj ((hlinks n hn).1.symm.trans hu)
  obtain ⟨-, ls, hls, haround⟩ := hlinks 1 (by decide)
  exact ⟨settings, base, href, ls, rfl, hbase, hhref 0 (by decide) _ (by decide +kernel),
    hhref 2 (by decide) _ (by decide +kernel), hls, haround, hvisits, by decide⟩

/-- The smallest number of elements that has too many digits, one on each page. -/
theorem exists_linksAt_eq_longInteger :
    ∃ (settings : Settings) (base : Template) (t : ℕ), settings.NamesParameters ∧
      Template.parse "/p".toList = .ok base ∧ t = 10 ^ 4300 ∧ 0 < t ∧ 0 < t ⌈/⌉ (1 : ℕ) ∧
      ∀ n < t ⌈/⌉ (1 : ℕ), linksAt settings base 1 t n = .error .longInteger := by
  let settings : Settings := { oneIndexed := true }
  let base : Template := ⟨[.literal "/p".toList]⟩
  let t := 10 ^ Decimal.digitLimit
  have hlimit : Decimal.digitLimit = 4300 := rfl
  have hnames : settings.NamesParameters := ⟨by decide, by decide, by decide⟩
  have hbase : Template.parse "/p".toList = .ok base := by decide
  have ht : 0 < t := Nat.pow_pos (by decide)
  have hcount : t ⌈/⌉ (1 : ℕ) = t := by
    rw [Nat.ceilDiv_eq_add_pred_div, Nat.add_sub_cancel, Nat.div_one]
  refine ⟨settings, base, t, hnames, hbase, by rw [← hlimit], ht, by rwa [hcount], fun n hn => ?_⟩
  refine linksAt_eq_longInteger hnames hbase Nat.one_pos (fun hwritable => ?_) hn
  have hlast : t - 1 + 1 < t := by
    rw [hcount] at hwritable
    exact hwritable.2
  omega

end WebLinking.Pagination
