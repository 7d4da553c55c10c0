import WebLinking.Proofs.Template.Expression

/-!
# Reading and the grammar

The scan accepts exactly the texts that the grammar writes, and the segments that it
gives are those of the only decomposition of the text. One step keeps the parts read so
far a decomposition of the text read so far; in the other direction a scan in a literal
absorbs whole parts.
-/

namespace WebLinking

/-- The parts of a segment are read off it as they were written. -/
@[simp] theorem Part.part_segment (part : Part) : part.segment.part = part := by
  cases part with
  | literal t => rfl
  | expression operator specs => simp [Part.segment, Segment.part, Function.comp_def]

/-- A segment has the text of its part. -/
theorem Segment.text_eq (s : Segment) : s.text = s.part.text := by
  cases s with
  | literal t => rfl
  | group g =>
    have hvarspec : Variable.varspec = Varspec.text ∘ Variable.spec := funext Variable.varspec_eq
    simp only [Segment.text, Segment.part, Part.text, Group.text, List.map_map, hvarspec]

/-- A template has the text of its parts. -/
theorem Template.text_eq (t : Template) : t.text = t.parts.flatMap Part.text := by
  rw [Template.text, Template.parts, List.flatMap_map, funext Segment.text_eq]

/-- The parts that segments stand for are the parts of their template. -/
theorem Template.parts_mk (parts : List Part) :
    Template.parts ⟨parts.map Part.segment⟩ = parts := by
  simp [Template.parts, Function.comp_def]

/-- No parts decompose the empty text. -/
theorem Decomposes.nil : Decomposes [] [] :=
  ⟨⟨rfl, by simp⟩, by simp, .nil⟩

/-- A decomposition grows by a part that is not empty and continues no literal. -/
theorem Decomposes.snoc {parts : List Part} {p : Text} (h : Decomposes parts p) {part : Part}
    (hpart : part.IsWellFormed) (hne : part ≠ .literal [])
    (hlast : ∀ last ∈ parts.getLast?, (last.isLiteral && part.isLiteral) = false) :
    Decomposes (parts ++ [part]) (p ++ part.text) := by
  refine ⟨⟨?_, ?_⟩, ?_, ?_⟩
  · rw [List.flatMap_append, h.text, List.flatMap_singleton]
  · intro a ha
    rcases List.mem_append.mp ha with ha | ha
    · exact h.wellFormed a ha
    · rwa [List.mem_singleton.mp ha]
  · simpa only [List.mem_append, List.mem_singleton, not_or] using ⟨h.nonempty, hne.symm⟩
  · refine h.maximal.append (.singleton part) ?_
    intro last hmem first hfirst
    cases hfirst
    exact hlast last hmem

namespace Scan

/-- What a scan knows of the text it has read: the complete parts decompose the text before the open
one. -/
inductive Reads : Text → Scan → Prop
  /-- In a literal that has no braces and that no other literal precedes. -/
  | literal {parts : List Part} {done seen : Text} {position : Nat}
      (hparts : Decomposes parts done) (hlast : ∀ last ∈ parts.getLast?, last.isLiteral = false)
      (hopen : '{' ∉ seen) (hclose : '}' ∉ seen) (hposition : position = (done ++ seen).length) :
      Reads (done ++ seen.reverse) ⟨position, parts.map Part.segment, .literal seen⟩
  /-- In an expression that has no closing brace and whose first inner brace is known. -/
  | expression {parts : List Part} {done seen : Text} {position : Nat} {nested : Option Nat}
      (hparts : Decomposes parts done) (hclose : '}' ∉ seen)
      (hposition : position = (done ++ '{' :: seen).length)
      (hnested : nested = (seen.reverse.findIdx? (· == '{')).map (done.length + 1 + ·)) :
      Reads (done ++ '{' :: seen.reverse)
        ⟨position, parts.map Part.segment, .expression done.length seen nested⟩

private theorem exists_withLiteral {parts : List Part} {done seen : Text}
    (hparts : Decomposes parts done) (hlast : ∀ last ∈ parts.getLast?, last.isLiteral = false)
    (hopen : '{' ∉ seen) (hclose : '}' ∉ seen) :
    ∃ parts', Decomposes parts' (done ++ seen.reverse) ∧
      withLiteral (parts.map Part.segment) seen = parts'.map Part.segment := by
  cases seen with
  | nil => exact ⟨parts, by simpa using hparts, rfl⟩
  | cons c seen =>
    refine ⟨parts ++ [.literal (c :: seen).reverse], hparts.snoc ?_ ?_ ?_, ?_⟩
    · exact .literal (mt List.mem_reverse.mp hopen) (mt List.mem_reverse.mp hclose)
    · simp
    · intro last hmem
      rw [hlast last hmem, Bool.false_and]
    · simp [withLiteral, Part.segment]

/-- A scan that has read nothing knows nothing. -/
theorem Reads.start : Reads [] {} :=
  @Reads.literal [] [] [] 0 .nil (by simp) (by simp) (by simp) rfl

private theorem Reads.step_literal {parts : List Part} {done seen : Text} {position : Nat}
    {next : Scan} {c : Char} (hparts : Decomposes parts done)
    (hlast : ∀ last ∈ parts.getLast?, last.isLiteral = false) (hopen : '{' ∉ seen)
    (hclose : '}' ∉ seen) (hposition : position = (done ++ seen).length)
    (hstep : Scan.step ⟨position, parts.map Part.segment, .literal seen⟩ c = .ok next) :
    Reads (done ++ seen.reverse ++ [c]) next := by
  simp only [Scan.step] at hstep
  split at hstep
  · rename_i hc
    obtain ⟨parts', hparts', hsegments⟩ := exists_withLiteral hparts hlast hopen hclose
    have hstart : position = (done ++ seen.reverse).length := by simpa using hposition
    cases hstep
    rw [hsegments, hc, hstart]
    exact @Reads.expression parts' _ [] _ _ hparts' (by simp) (by simp; omega) rfl
  · split at hstep
    · cases hstep
    · rename_i hc hc'
      cases hstep
      rw [List.append_assoc, ← List.reverse_cons]
      exact .literal hparts hlast (by simpa using ⟨Ne.symm hc, hopen⟩)
        (by simpa using ⟨Ne.symm hc', hclose⟩) (by simp [hposition]; omega)

private theorem Reads.close_expression {parts : List Part} {done seen : Text} {g : Group}
    (hparts : Decomposes parts done) (hg : Group.read done.length seen.reverse = .ok g) :
    Reads (done ++ '{' :: seen.reverse ++ ['}'])
      ⟨(done ++ '{' :: seen).length + 1, parts.map Part.segment ++ [.group g], .literal []⟩ := by
  obtain ⟨operator, specs, hpart, htext, hsegment⟩ := Group.read_eq_ok_iff.mp hg
  have hgrown := hparts.snoc hpart (by simp) (by simp [Part.isLiteral])
  have hdone : done ++ '{' :: seen.reverse ++ ['}'] =
      done ++ (Part.expression operator specs).text := by
    rw [Part.text, ← htext]
    simp
  have hlength : (done ++ '{' :: seen).length + 1 =
      (done ++ (Part.expression operator specs).text ++ []).length := by
    rw [List.append_nil, ← hdone]
    simp
    omega
  have hend := @Reads.literal _ _ [] _ hgrown (by simp [Part.isLiteral]) (by simp) (by simp) hlength
  rw [hdone, ← hsegment, ← List.map_singleton, ← List.map_append]
  simpa using hend

private theorem Reads.step_expression {parts : List Part} {done seen : Text} {position : Nat}
    {nested : Option Nat} {next : Scan} {c : Char} (hparts : Decomposes parts done)
    (hclose : '}' ∉ seen) (hposition : position = (done ++ '{' :: seen).length)
    (hnested : nested = (seen.reverse.findIdx? (· == '{')).map (done.length + 1 + ·))
    (hstep : Scan.step
      ⟨position, parts.map Part.segment, .expression done.length seen nested⟩ c = .ok next) :
    Reads (done ++ '{' :: seen.reverse ++ [c]) next := by
  simp only [Scan.step] at hstep
  split at hstep
  · rename_i hc
    cases nested with
    | some place => cases hstep
    | none =>
      obtain ⟨g, hg, hnext⟩ := bind_eq_ok_iff.mp hstep
      cases hnext
      rw [hc, hposition]
      exact .close_expression hparts hg
  · rename_i hc
    have hclose' : '}' ∉ c :: seen := by simpa using ⟨Ne.symm hc, hclose⟩
    have hposition' : position + 1 = (done ++ '{' :: c :: seen).length := by
      simp [hposition]
      omega
    have htext : done ++ '{' :: seen.reverse ++ [c] = done ++ '{' :: (c :: seen).reverse := by simp
    rw [htext]
    split at hstep
    · rename_i hc'
      cases hstep
      refine .expression hparts hclose' hposition' ?_
      subst hc'
      cases hfirst : seen.reverse.findIdx? (· == '{') with
      | none => simp [hnested, hfirst, List.findIdx?_append, hposition]; omega
      | some place => simp [hnested, hfirst, List.findIdx?_append]
    · rename_i hc'
      cases hstep
      refine .expression hparts hclose' hposition' ?_
      simp [hnested, List.findIdx?_append, hc']

/-- One step keeps what a scan knows true of the text with one more character. -/
theorem Reads.step {u : Text} {scan next : Scan} (h : Reads u scan) {c : Char}
    (hstep : scan.step c = .ok next) : Reads (u ++ [c]) next := by
  cases h with
  | literal hparts hlast hopen hclose hposition =>
    exact .step_literal hparts hlast hopen hclose hposition hstep
  | expression hparts hclose hposition hnested =>
    exact .step_expression hparts hclose hposition hnested hstep

/-- A run keeps what a scan knows true of the text with everything that is read. -/
theorem Reads.run {u t : Text} {scan last : Scan} (h : Reads u scan)
    (hrun : scan.run t = .ok last) : Reads (u ++ t) last := by
  induction t generalizing u scan with
  | nil =>
    cases hrun
    rwa [List.append_nil]
  | cons c t ih =>
    obtain ⟨next, hstep, hrest⟩ := bind_eq_ok_iff.mp hrun
    simpa only [List.append_assoc, List.singleton_append] using ih (h.step hstep) hrest

/-- A scan that may end has read a decomposition of its text. -/
theorem Reads.finish {u : Text} {scan : Scan} {t : Template} (h : Reads u scan)
    (hfinish : scan.finish = .ok t) :
    ∃ parts, Decomposes parts u ∧ t = ⟨parts.map Part.segment⟩ := by
  cases h with
  | literal hparts hlast hopen hclose _ =>
    obtain ⟨parts', hparts', hsegments⟩ := exists_withLiteral hparts hlast hopen hclose
    cases hfinish
    exact ⟨parts', hparts', by rw [hsegments]⟩
  | expression _ _ _ _ => cases hfinish

/-- Reading on from where a run ends is one run. -/
theorem run_append (scan : Scan) (s t : Text) :
    scan.run (s ++ t) = scan.run s >>= fun next => next.run t :=
  List.foldlM_append

/-- Where a scan is after a text that has no braces. -/
private def modeAfter (t : Text) : ScanMode → ScanMode
  | .literal seen => .literal (t.reverse ++ seen)
  | .expression start seen nested => .expression start (t.reverse ++ seen) nested

private theorem run_plain (position : Nat) (segments : List Segment) (mode : ScanMode) {t : Text}
    (hopen : '{' ∉ t) (hclose : '}' ∉ t) :
    run ⟨position, segments, mode⟩ t =
      .ok ⟨position + t.length, segments, modeAfter t mode⟩ := by
  induction t generalizing position mode with
  | nil => cases mode <;> rfl
  | cons c t ih =>
    simp only [List.mem_cons, not_or] at hopen hclose
    have hstep : step ⟨position, segments, mode⟩ c =
        .ok ⟨position + 1, segments, modeAfter [c] mode⟩ := by
      cases mode <;> simp [step, modeAfter, Ne.symm hopen.1, Ne.symm hclose.1]
    have hmode : modeAfter t (modeAfter [c] mode) = modeAfter (c :: t) mode := by
      cases mode <;> simp [modeAfter]
    rw [run, List.foldlM_cons, hstep]
    refine (ih (position + 1) (modeAfter [c] mode) hopen.2 hclose.2).trans ?_
    rw [hmode, List.length_cons, Nat.add_assoc, Nat.add_comm 1]

/-- An expression without inner braces is read at its closing brace. -/
theorem run_expression (position : Nat) (segments : List Segment) (seen : Text) {body : Text}
    (hopen : '{' ∉ body) (hclose : '}' ∉ body) {g : Group}
    (hread : Group.read position body = .ok g) :
    run ⟨position, segments, .literal seen⟩ ('{' :: body ++ ['}']) =
      .ok ⟨position + body.length + 2, withLiteral segments seen ++ [.group g], .literal []⟩ := by
  have hfirst : step ⟨position, segments, .literal seen⟩ '{' =
      .ok ⟨position + 1, withLiteral segments seen, .expression position [] none⟩ := rfl
  have hlast : step ⟨position + 1 + body.length, withLiteral segments seen,
      modeAfter body (.expression position [] none)⟩ '}' =
        .ok ⟨position + 1 + body.length + 1, withLiteral segments seen ++ [.group g],
          .literal []⟩ := by
    simp only [step, modeAfter, List.append_nil, List.reverse_reverse, hread]
    rfl
  rw [List.cons_append, run, List.foldlM_cons, hfirst]
  refine (run_append _ body ['}']).trans ?_
  rw [run_plain (position + 1) (withLiteral segments seen) _ hopen hclose]
  refine bind_eq_ok_iff.mpr ⟨_, rfl, ?_⟩
  rw [run, List.foldlM_cons, hlast]
  simp only [Nat.add_right_comm position 1]
  rfl

/-- What a whole part makes of the segments and the literal before it. -/
private def absorb (state : List Segment × Text) : Part → List Segment × Text
  | .literal t => (state.1, t.reverse ++ state.2)
  | .expression operator specs =>
    (withLiteral state.1 state.2 ++ [(Part.expression operator specs).segment], [])

private theorem run_part (position : Nat) (state : List Segment × Text) {part : Part}
    (hpart : part.IsWellFormed) :
    ∃ next, run ⟨position, state.1, .literal state.2⟩ part.text =
      .ok ⟨next, (absorb state part).1, .literal (absorb state part).2⟩ := by
  cases hpart with
  | literal hopen hclose => exact ⟨_, run_plain position state.1 _ hopen hclose⟩
  | @expression operator specs hne h =>
    refine ⟨_, run_expression position state.1 state.2 (Group.brace_not_mem h (Or.inl rfl))
      (Group.brace_not_mem h (Or.inr rfl)) ?_⟩
    exact Group.read_eq_ok_iff.mpr ⟨operator, specs, .expression hne h, rfl, rfl⟩

private theorem run_parts {parts : List Part} (h : ∀ part ∈ parts, part.IsWellFormed)
    (position : Nat) (state : List Segment × Text) :
    ∃ next, run ⟨position, state.1, .literal state.2⟩ (parts.flatMap Part.text) =
      .ok ⟨next, (parts.foldl absorb state).1, .literal (parts.foldl absorb state).2⟩ := by
  induction parts generalizing position state with
  | nil => exact ⟨position, rfl⟩
  | cons part parts ih =>
    obtain ⟨hpart, hparts⟩ := List.forall_mem_cons.mp h
    obtain ⟨next, hnext⟩ := run_part position state hpart
    obtain ⟨last, hlast⟩ := ih hparts next (absorb state part)
    refine ⟨last, ?_⟩
    rw [List.flatMap_cons, run_append, hnext]
    exact hlast

private theorem withLiteral_foldl_absorb {parts : List Part} (hne : Part.literal [] ∉ parts)
    (hchain : parts.IsChain fun a b => (a.isLiteral && b.isLiteral) = false)
    (state : List Segment × Text)
    (hhead : state.2 ≠ [] → ∀ part ∈ parts.head?, part.isLiteral = false) :
    withLiteral (parts.foldl absorb state).1 (parts.foldl absorb state).2 =
      withLiteral state.1 state.2 ++ parts.map Part.segment := by
  induction parts generalizing state with
  | nil => simp
  | cons part parts ih =>
    simp only [List.mem_cons, not_or] at hne
    obtain ⟨hnext, hrest⟩ := List.isChain_cons.mp hchain
    cases part with
    | literal t =>
      have hseen : state.2 = [] := by
        by_contra hseen
        exact Bool.noConfusion (hhead hseen _ rfl)
      have ht : t ≠ [] := fun he => hne.1 (congrArg Part.literal he.symm)
      have hih := ih hne.2 hrest (absorb state (.literal t)) fun _ next hmem => by
        simpa [Part.isLiteral] using hnext next hmem
      rw [List.foldl_cons, hih]
      simp [absorb, withLiteral, hseen, ht, Part.segment]
    | expression operator specs =>
      have hih := ih hne.2 hrest (absorb state (.expression operator specs)) fun h =>
        absurd rfl h
      rw [List.foldl_cons, hih]
      simp [absorb, withLiteral]

end Scan

namespace Template

/-- A pattern is read exactly if it has a decomposition, and as its segments. -/
theorem read_eq_ok_iff {p : Text} {t : Template} :
    read p = .ok t ↔ ∃ parts, Decomposes parts p ∧ t = ⟨parts.map Part.segment⟩ := by
  constructor
  · intro h
    obtain ⟨scan, hrun, hfinish⟩ := bind_eq_ok_iff.mp h
    exact (Scan.Reads.start.run hrun).finish hfinish
  · rintro ⟨parts, hparts, rfl⟩
    obtain ⟨next, hrun⟩ := Scan.run_parts hparts.wellFormed 0 ([], [])
    rw [hparts.text] at hrun
    refine bind_eq_ok_iff.mpr ⟨_, hrun, ?_⟩
    have hsegments := Scan.withLiteral_foldl_absorb hparts.nonempty hparts.maximal ([], [])
      fun h => absurd rfl h
    simpa [Scan.finish, Scan.withLiteral] using hsegments

/-- Reading a pattern succeeds whenever its text is a concatenation of parts. -/
theorem exists_read_of_spells {parts : List Part} {p : Text} (h : Spells parts p) :
    ∃ t, read p = .ok t := by
  obtain ⟨next, hrun⟩ := Scan.run_parts h.wellFormed 0 ([], [])
  rw [h.text] at hrun
  exact ⟨_, bind_eq_ok_iff.mpr ⟨_, hrun, rfl⟩⟩

/-- Naming the pattern in a fault changes no result. -/
theorem parse_eq_ok_iff_read {p : Text} {t : Template} : parse p = .ok t ↔ read p = .ok t := by
  unfold parse
  cases read p <;> simp [Except.mapError]

/-- A pattern is parsed exactly if it has a decomposition, and as its segments. -/
theorem parse_eq_ok_iff {p : Text} {t : Template} :
    parse p = .ok t ↔ ∃ parts, Decomposes parts p ∧ t = ⟨parts.map Part.segment⟩ :=
  parse_eq_ok_iff_read.trans read_eq_ok_iff

/-- The parts of a parsed template decompose its pattern. -/
theorem decomposes_of_parse {p : Text} {t : Template} (h : parse p = .ok t) :
    Decomposes t.parts p := by
  obtain ⟨parts, hparts, rfl⟩ := parse_eq_ok_iff.mp h
  rwa [parts_mk]

end Template

/-- A text has at most one decomposition. -/
theorem Decomposes.unique {parts parts' : List Part} {p : Text} (h : Decomposes parts p)
    (h' : Decomposes parts' p) : parts = parts' := by
  have hread := (Template.read_eq_ok_iff.mpr ⟨parts, h, rfl⟩).symm.trans
    (Template.read_eq_ok_iff.mpr ⟨parts', h', rfl⟩)
  simpa only [Template.parts_mk] using congrArg Template.parts (Except.ok.inj hread)

/-- The variables of a group have the operator of the group. -/
def Group.IsUniform (g : Group) : Prop := ∀ v ∈ g.vars, v.operator = g.operator

/-- The variables of every group of a template have the operator of their group. -/
def Template.IsUniform (t : Template) : Prop := ∀ g, Segment.group g ∈ t.segments → g.IsUniform

namespace Template

/-- The segments that parts stand for are uniform. -/
theorem isUniform_mk (parts : List Part) : IsUniform ⟨parts.map Part.segment⟩ := by
  intro g hg v hv
  obtain ⟨part, -, hpart⟩ := List.mem_map.mp hg
  cases part with
  | literal t => cases hpart
  | expression operator specs =>
    cases hpart
    obtain ⟨spec, -, rfl⟩ := List.mem_map.mp hv
    exact spec.toVariable_operator operator

/-- Parsing succeeds exactly on the concatenations of literals and expressions, and finds the only
maximal decomposition. -/
theorem parse_grammar (p : Text) :
    ((∃ t, parse p = .ok t) ↔ ∃ parts, Spells parts p) ∧
    (∀ t, parse p = .ok t →
      Decomposes t.parts p ∧ (∀ parts, Decomposes parts p → parts = t.parts) ∧
        t.segments = t.parts.map Part.segment ∧ t.IsUniform) ∧
    ∀ fault, parse p = .error fault →
      (∃ flaw position, fault = .malformedTemplate p flaw position) ∨
        ∃ name, fault = .invalidName name := by
  refine ⟨⟨?_, ?_⟩, ?_, ?_⟩
  · rintro ⟨t, ht⟩
    exact ⟨t.parts, (decomposes_of_parse ht).toSpells⟩
  · rintro ⟨parts, hparts⟩
    obtain ⟨t, ht⟩ := exists_read_of_spells hparts
    exact ⟨t, parse_eq_ok_iff_read.mpr ht⟩
  · intro t ht
    have hparts := decomposes_of_parse ht
    obtain ⟨parts, -, rfl⟩ := parse_eq_ok_iff.mp ht
    refine ⟨hparts, fun parts h => h.unique hparts, ?_, isUniform_mk parts⟩
    rw [parts_mk]
  · intro fault hfault
    unfold parse at hfault
    cases he : read p with
    | ok t =>
      rw [he] at hfault
      cases hfault
    | error e =>
      rw [he] at hfault
      cases e with
      | malformed flaw position =>
        cases hfault
        exact Or.inl ⟨flaw, position, rfl⟩
      | badName name =>
        cases hfault
        exact Or.inr ⟨name, rfl⟩

/-- The text of a parsed template is the pattern that was parsed. -/
theorem text_parse {p : Text} {t : Template} (h : parse p = .ok t) : t.text = p := by
  rw [text_eq]
  exact (decomposes_of_parse h).text

/-- A pattern with exploded, prefixed and encoded names between literals. -/
theorem text_parse_modifiers :
    ∃ t, parse "/a\x7b?x,y*\x7db\x7b;z:12\x7d\x7b+%41.b*\x7d".toList = .ok t ∧
      t.text = "/a\x7b?x,y*\x7db\x7b;z:12\x7d\x7b+%41.b*\x7d".toList :=
  ⟨_, rfl, text_parse rfl⟩

end Template

end WebLinking
