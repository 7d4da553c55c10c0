import WebLinking.Proofs.Link.Finality
import WebLinking.Proofs.Link.Header

/-!
# Links that calls yield

A link is first made of a target, of a record or of a header, and then each call makes a
link of one that is there. Such a call copies what it does not change, and no field is
checked again, so every call has to leave a well-formed link by itself. Texts make such links
only; octets and enumeration members are decoded after the checks, so the target may be empty
and the relation may have blanks around it. A call that fails yields no link: the caller is
left with the one it had, and of a header that lists an element in error there is no link at
all, not even one of the elements before it.
-/

namespace WebLinking.Link

/-- A call that makes links where there is none. -/
inductive Origin where
  /-- Makes the link to a target under a relation. -/
  | target (href : Value) (rel : RelationInput)
  /-- Makes the link of parts, the relation given as one or as something to make it of. -/
  | parts (href : Option Value) (rel : Option RelationInput) (fields : Fields)
  /-- Makes the link that a record describes. -/
  | record (value : Value)
  /-- Reads one element of a header. -/
  | element (text : Text)
  /-- Reads a header. -/
  | header (text : Text)
  deriving Repr

namespace Origin

/-- The links that a call makes. -/
def links : Origin → Except Fault (List Link)
  | .target href rel => do return [← Link.of href rel]
  | .parts href rel fields => do return [← (← checkParts href rel fields).settle]
  | .record value => do return [← ofRecord value]
  | .element text => do return [← ofElement text]
  | .header text => parseHeader text

/-- What is given to the call for the target. -/
def href? : Origin → Option Value
  | .target href _ => some href
  | .parts href _ _ => href
  | .record (.mapping fields) => Fields.get? fields "href".toList
  | _ => none

/-- What is given to the call for the relation. -/
def relation? : Origin → Option RelationInput
  | .target _ rel => some rel
  | .parts _ rel _ => rel
  | .record (.mapping fields) => (Fields.get? fields "rel".toList).map .raw
  | _ => none

/-- A relation that is given to the call was made before. -/
def IsMade (origin : Origin) : Prop := ∀ rel ∈ origin.relation?, rel.IsMade

end Origin

/-- A call that makes a link of one that is there. -/
inductive Call where
  /-- Puts the link under a relation. -/
  | withRelation (rel : RelationInput)
  /-- Puts the link under the relation to the resource itself. -/
  | withSelfRelation
  /-- Changes an attribute. -/
  | withAttribute (a : Attribute) (value : Option Text)
  /-- Expands the target. -/
  | expand (values arguments : Bindings)
  deriving Repr

namespace Call

/-- The link that a call makes. -/
def run (l : Link) : Call → Except Fault Link
  | .withRelation rel => l.withRelation rel
  | .withSelfRelation => .ok l.withSelfRelation
  | .withAttribute a value => .ok (l.withAttribute a value)
  | .expand values arguments => l.expand values arguments

/-- The link that a caller holds after a call, which is the one it had if the call fails. -/
def attempt (l : Link) (call : Call) : Link :=
  match call.run l with
  | .ok m => m
  | .error _ => l

/-- What is given to the call for the relation. -/
def relation? : Call → Option RelationInput
  | .withRelation rel => some rel
  | _ => none

/-- A relation that is given to the call was made before. -/
def IsMade (call : Call) : Prop := ∀ rel ∈ call.relation?, rel.IsMade

end Call

/-- The link that is read from an element is well formed. -/
theorem isWellFormed_of_ofElement {element : Text} {l : Link} (h : ofElement element = .ok l) :
    l.IsWellFormed := by
  obtain ⟨after, rel, -, hhref, -, hrel, -⟩ := ofElement_eq_ok_iff.mp h
  exact ⟨hhref, (Relation.ofText_eq_sound_iff.mp hrel).1⟩

/-- A word is a relation of its own. -/
theorem isWellFormed_of_mem_perRelation {l m : Link} (hl : l.IsWellFormed)
    (hm : m ∈ l.perRelation) : m.IsWellFormed ∧ ∀ c ∈ m.rel.value, Text.isBlank c = false := by
  obtain ⟨word, hword, rfl⟩ := List.mem_map.mp hm
  have hne := Text.ne_nil_of_mem_words hword
  have hblank := Text.not_isBlank_of_mem_words hword
  have htrim : word.trim = word :=
    Text.trim_eq_self (fun c hc => hblank c (List.mem_of_mem_head? hc))
      fun c hc => hblank c (List.mem_of_mem_getLast? hc)
  exact ⟨⟨hl.href, hne, htrim⟩, hblank⟩

/-- A link of a header is well formed, and its relation is one word. -/
theorem isWellFormed_of_parseHeader {header : Text} {links : List Link}
    (h : parseHeader header = .ok links) {l : Link} (hl : l ∈ links) :
    l.IsWellFormed ∧ ∀ c ∈ l.rel.value, Text.isBlank c = false := by
  obtain ⟨elements, helements, h⟩ := bind_eq_ok_iff.mp h
  cases h
  obtain ⟨m, hm, hl⟩ := List.mem_flatMap.mp hl
  obtain ⟨element, -, helement⟩ := exists_mem_of_mapM_eq_ok helements hm
  exact isWellFormed_of_mem_perRelation (isWellFormed_of_ofElement helement) hl

/-- A header fails as the first of its elements that fails, blank ones left out. -/
theorem parseHeader_eq_error_iff {header : Text} {fault : Fault} :
    parseHeader header = .error fault ↔ ∃ before element after,
      (Header.split ',' header).filter (!·.isBlankText) = before ++ element :: after ∧
        (∀ t ∈ before, ∃ l, ofElement t = .ok l) ∧ ofElement element = .error fault := by
  rw [← mapM_eq_error_iff, parseHeader, bind_eq_error_iff]
  refine ⟨fun h => h.resolve_right ?_, Or.inl⟩
  rintro ⟨elements, -, ⟨⟩⟩

/-- A link has no target only if it was decoded as none, and its relation is spelled as it was
given. -/
structure IsSpelled (href : Option Value) (given : List RelationInput) (l : Link) : Prop where
  /-- The target is empty exactly if it was decoded as the empty text. -/
  href : l.href = [] ↔ href.bind Value.decoded? = some []
  /-- The relation has a spelling that is trimmed or was decoded. -/
  rel : l.rel.IsSpelled given

/-- A well-formed link is spelled whatever was given for its relation. -/
theorem IsWellFormed.isSpelled {l : Link} (hl : l.IsWellFormed) (given : List RelationInput) :
    l.IsSpelled none given :=
  ⟨iff_of_false hl.href (by rintro ⟨⟩), hl.rel.isSpelled given⟩

/-- A link that is made of parts is spelled as they are given. -/
theorem isSpelled_of_checkParts {href : Option Value} {rel : Option RelationInput}
    {fields : Fields} {l : Link} (hrel : ∀ r ∈ rel, r.IsMade)
    (h : checkParts href rel fields = .ok (.sound l)) : l.IsSpelled href rel.toList :=
  ⟨href_eq_nil_iff_of_checkParts h, rel_isSpelled_of_checkParts hrel h⟩

/-- The links that a call makes are spelled as what is given to it. -/
theorem Origin.isSpelled_of_links {origin : Origin} (horigin : origin.IsMade) {links : List Link}
    (h : origin.links = .ok links) {l : Link} (hl : l ∈ links) :
    l.IsSpelled origin.href? origin.relation?.toList := by
  cases origin with
  | target href rel =>
    obtain ⟨m, hm, ⟨⟩⟩ := bind_eq_ok_iff.mp h
    cases List.mem_singleton.mp hl
    exact isSpelled_of_checkParts horigin (Checked.bind_settle_eq_ok_iff.mp hm)
  | parts href rel fields =>
    obtain ⟨checked, hchecked, h⟩ := bind_eq_ok_iff.mp h
    obtain ⟨m, hsettle, ⟨⟩⟩ := bind_eq_ok_iff.mp h
    cases Checked.settle_eq_ok_iff.mp hsettle
    cases List.mem_singleton.mp hl
    exact isSpelled_of_checkParts horigin hchecked
  | record value =>
    obtain ⟨m, hm, ⟨⟩⟩ := bind_eq_ok_iff.mp h
    cases List.mem_singleton.mp hl
    have hchecked := Checked.bind_settle_eq_ok_iff.mp hm
    cases value with
    | mapping fields => exact isSpelled_of_checkParts horigin hchecked
    | _ => cases hchecked
  | element text =>
    obtain ⟨m, hm, ⟨⟩⟩ := bind_eq_ok_iff.mp h
    cases List.mem_singleton.mp hl
    exact (isWellFormed_of_ofElement hm).isSpelled _
  | header text => exact (isWellFormed_of_parseHeader h hl).1.isSpelled _

namespace Call

variable {call : Call} {href : Option Value} {given : List RelationInput} {l : Link}

/-- A call makes a link whose relation was there before or is given to the call. -/
theorem isSpelled_run (hcall : call.IsMade) (hl : l.IsSpelled href given) {m : Link}
    (h : call.run l = .ok m) : m.IsSpelled href (given ++ call.relation?.toList) := by
  have hrel := hl.rel.mono (List.subset_append_left given call.relation?.toList)
  cases call with
  | withRelation rel =>
    obtain ⟨r, hr, ⟨⟩⟩ := bind_eq_ok_iff.mp h
    exact ⟨hl.href, ((hcall rel rfl).isSpelled_of_resolve hr).mono (List.subset_append_right _ _)⟩
  | withSelfRelation =>
    cases h
    exact ⟨hl.href, Relation.isWellFormed_self.isSpelled _⟩
  | withAttribute a value =>
    cases h
    cases a <;> exact ⟨hl.href, hrel⟩
  | expand values arguments =>
    have htarget : l.href ≠ [] := by
      intro hnil
      rw [run, Link.expand, template, hnil] at h
      cases h
    obtain ⟨t, s, -, -, hne, rfl⟩ := exists_expand_of_expand h
    exact ⟨(iff_of_false hne htarget).trans hl.href, hrel⟩

/-- After a call, whether it fails or not, the relation of the caller's link is one of these. -/
theorem isSpelled_attempt (hcall : call.IsMade) (hl : l.IsSpelled href given) :
    (call.attempt l).IsSpelled href (given ++ call.relation?.toList) := by
  unfold attempt
  split
  · rename_i m h
    exact isSpelled_run hcall hl h
  · exact ⟨hl.href, hl.rel.mono (List.subset_append_left _ _)⟩

/-- After any number of calls, the relation of the caller's link was there before or is given to
one of the calls. -/
theorem isSpelled_foldl_attempt {calls : List Call} (hcalls : ∀ call ∈ calls, call.IsMade)
    (hl : l.IsSpelled href given) :
    (calls.foldl attempt l).IsSpelled href (given ++ calls.filterMap relation?) := by
  induction calls generalizing l given with
  | nil => exact ⟨hl.href, hl.rel.mono (List.subset_append_left _ _)⟩
  | cons call calls ih =>
    obtain ⟨hcall, hmore⟩ := List.forall_mem_cons.mp hcalls
    have hlast := ih hmore (isSpelled_attempt hcall hl)
    refine ⟨hlast.href, hlast.rel.mono ?_⟩
    rw [List.append_assoc, List.filterMap_cons]
    cases call.relation? with
    | none => exact List.Subset.refl _
    | some rel => exact List.Subset.refl _

end Call

/-- A link that calls yield has a target and a trimmed relation that is not empty, unless they were
decoded otherwise. -/
theorem wellFormed_of_calls {origin : Origin} (horigin : origin.IsMade) {links : List Link}
    (h : origin.links = .ok links) {l : Link} (hl : l ∈ links) {calls : List Call}
    (hcalls : ∀ call ∈ calls, call.IsMade) :
    let held := calls.foldl Call.attempt l
    (held.href = [] ↔ origin.href?.bind Value.decoded? = some []) ∧
      held.rel.value ≠ [] ∧
      (held.rel.value.trim = held.rel.value ∨
        ∃ rel ∈ origin.relation?.toList ++ calls.filterMap Call.relation?,
          rel.decoded? = some held.rel.value) ∧
      (∀ header, origin = .header header → ∀ c ∈ l.rel.value, Text.isBlank c = false) ∧
      ∀ header fault, parseHeader header = .error fault ↔
        ∃ before element after,
          (Header.split ',' header).filter (!·.isBlankText) = before ++ element :: after ∧
            (∀ t ∈ before, ∃ l, ofElement t = .ok l) ∧ ofElement element = .error fault := by
  have hheld := Call.isSpelled_foldl_attempt hcalls (origin.isSpelled_of_links horigin h hl)
  refine ⟨hheld.href, hheld.rel.ne_nil, hheld.rel.trim_eq, ?_, fun _ _ => parseHeader_eq_error_iff⟩
  rintro header rfl
  exact (isWellFormed_of_parseHeader h hl).2

/-- A link of a header, after an empty expansion, a blank relation, a padded one and an
expansion. -/
theorem wellFormed_of_calls_header :
    ∃ (l m : Link) (calls : List Call),
      parseHeader "<\x7b+b\x7d>;rel=\" next\nLast \"".toList = .ok [l, m] ∧
      calls.map (fun call => (call.run l).isOk) = [false, false, true, true] ∧
      calls.foldl Call.attempt l = { href := "/x".toList, rel := ⟨"Up".toList⟩ } ∧
      (calls.foldl Call.attempt l).href ≠ [] ∧
      (calls.foldl Call.attempt l).rel.value.trim = (calls.foldl Call.attempt l).rel.value ∧
      (∀ c ∈ m.rel.value, Text.isBlank c = false) ∧
      ∃ fault, parseHeader "</a>;rel=a,</b>,</c>;rel=c".toList = .error fault := by
  let l : Link := { href := "\x7b+b\x7d".toList, rel := ⟨"next".toList⟩ }
  let m : Link := { l with rel := ⟨"Last".toList⟩ }
  let calls : List Call := [.expand [] [], .withRelation (.raw (.text " ".toList)),
    .withRelation (.raw (.text " Up ".toList)), .expand [("b".toList, .text "/x".toList)] []]
  have hread : parseHeader "<\x7b+b\x7d>;rel=\" next\nLast \"".toList = .ok [l, m] := by rfl
  have hcalls : ∀ call ∈ calls, call.IsMade := by
    simp [calls, Call.IsMade, Call.relation?, RelationInput.IsMade]
  have horigin : (Origin.header "<\x7b+b\x7d>;rel=\" next\nLast \"".toList).IsMade := by
    rintro rel ⟨⟩
  obtain ⟨htarget, -, htrim, -⟩ := wellFormed_of_calls horigin hread List.mem_cons_self hcalls
  obtain ⟨-, -, -, hwords, hfails⟩ := wellFormed_of_calls horigin hread
    (List.mem_cons_of_mem l List.mem_cons_self) hcalls
  refine ⟨l, m, calls, hread, by decide, by decide, ?_, ?_, hwords _ rfl, ?_⟩
  · intro hnil
    cases htarget.mp hnil
  · refine htrim.resolve_right ?_
    rintro ⟨rel, hrel, hdecoded⟩
    rcases List.mem_pair.mp hrel with rfl | rfl
    · cases hdecoded
    · cases hdecoded
  · exact ⟨_, (hfails _ _).mpr ⟨["</a>;rel=a".toList], "</b>".toList, ["</c>;rel=c".toList], rfl,
      by simpa using ⟨_, rfl⟩, rfl⟩⟩

/-- An empty string of octets makes a link without a target, and octets with blanks around them
an untrimmed relation. -/
theorem exists_of_octets :
    ∃ l m : Link, Link.of (.unordered (.bytes [])) (.made .self) = .ok l ∧ l.href = [] ∧
      ofRecord (.mapping [(.text "href".toList, .unordered (.bytes []))]) = .ok l ∧
      l.withRelation (.raw (.unordered (.bytes " next ".toList))) = .ok m ∧
      m.rel.value.trim ≠ m.rel.value :=
  ⟨_, _, rfl, rfl, rfl, rfl, by decide⟩

end WebLinking.Link
