import WebLinking.Proofs.Template.Composition
import WebLinking.Proofs.Template.Expansion

/-!
# Patterns one after another

A scan does not look back: what it does with a text depends on what it read before in two
ways only. Positions are counted from the beginning of everything that is read, and a literal
that is still open runs on. So a pattern may be read behind another one, with the same
outcome in both respects.
-/

namespace WebLinking

/-- The error that is found where this one is, but behind a text of a length. -/
def ReadError.behind (n : Nat) : ReadError → ReadError
  | .malformed flaw position => .malformed flaw (n + position)
  | .badName name => .badName name

namespace Group

private theorem readVariable_behind (operator : Operator) (expression : Text) (n position : Nat)
    (t : Text) :
    readVariable operator expression (n + position) t =
      (readVariable operator expression position t).mapError (ReadError.behind n) := by
  unfold readVariable
  cases Varspec.read? t with
  | none => rfl
  | some spec =>
    dsimp only
    split
    · rfl
    · split <;> rfl

private theorem readVariables_behind (operator : Operator) (expression : Text) (n position : Nat)
    (pieces : List Text) :
    pieces.mapM (readVariable operator expression (n + position)) =
      (pieces.mapM (readVariable operator expression position)).mapError (ReadError.behind n) := by
  rw [← mapM_mapError, funext (readVariable_behind operator expression n position)]

/-- The position of an expression is found again in the error that reading it ends in, and
nowhere else. -/
theorem read_behind (n position : Nat) (expression : Text) :
    read (n + position) expression = (read position expression).mapError (ReadError.behind n) := by
  cases expression with
  | nil => rfl
  | cons symbol rest =>
    rw [read, read]
    by_cases hfuture : Operator.futureSymbols.contains symbol = true
    · rw [if_pos hfuture, if_pos hfuture]
      rfl
    · rw [if_neg hfuture, if_neg hfuture]
      obtain ⟨operator, body⟩ := splitOperator symbol rest
      by_cases hempty : body.isEmpty = true
      · simp only [hempty, if_true]
        rfl
      · simp only [hempty, Bool.false_eq_true, if_false, mapError_bind, readVariables_behind]
        rfl

end Group

namespace Scan

/-- Segments that follow others and a literal that is still open. The literal runs on into
one that they begin with. -/
def follow (segments : List Segment) (seen : Text) : List Segment → List Segment
  | .literal t :: more => withLiteral segments (t.reverse ++ seen) ++ more
  | more => withLiteral segments seen ++ more

variable {segments more : List Segment} {seen u : Text}

private theorem follow_append_group (g : Group) :
    follow segments seen (more ++ [.group g]) = follow segments seen more ++ [.group g] := by
  cases more with
  | nil => simp [follow]
  | cons s more => cases s <;> simp [follow]

private theorem follow_withLiteral_nil :
    follow segments seen (withLiteral [] u) = withLiteral segments (u ++ seen) := by
  cases u with
  | nil => simp [follow, withLiteral]
  | cons c u => simp [follow, withLiteral]

private theorem follow_withLiteral (hne : more ≠ []) :
    follow segments seen (withLiteral more u) = withLiteral (follow segments seen more) u := by
  obtain ⟨s, more, rfl⟩ := List.exists_cons_of_ne_nil hne
  cases u with
  | nil => simp [withLiteral]
  | cons c u => cases s <;> simp [follow, withLiteral]

/-- Where a scan is if it reads behind a text of a length that ends in an open literal. -/
def behind (n : Nat) (segments : List Segment) (seen : Text) (scan : Scan) : Scan :=
  match scan.mode with
  | .literal u =>
    if scan.segments.isEmpty then ⟨n + scan.position, segments, .literal (u ++ seen)⟩
    else ⟨n + scan.position, follow segments seen scan.segments, .literal u⟩
  | .expression start u nested =>
    ⟨n + scan.position, follow segments seen scan.segments,
      .expression (n + start) u (nested.map (n + ·))⟩

private theorem behind_literal (n position : Nat) (hne : more ≠ []) :
    behind n segments seen ⟨position, more, .literal u⟩ =
      ⟨n + position, follow segments seen more, .literal u⟩ :=
  if_neg (mt List.isEmpty_iff.mp hne)

/-- A step behind a text is the step that it is by itself. -/
theorem step_behind (n : Nat) (segments : List Segment) (seen : Text) (scan : Scan) (c : Char) :
    (scan.behind n segments seen).step c =
      behind n segments seen <$> (scan.step c).mapError (ReadError.behind n) := by
  obtain ⟨position, more, mode⟩ := scan
  cases mode with
  | literal u =>
    by_cases hopen : c = '{'
    · subst hopen
      have hliteral : follow segments seen (withLiteral more u) =
          if more.isEmpty then withLiteral segments (u ++ seen)
          else withLiteral (follow segments seen more) u := by
        cases more with
        | nil => exact follow_withLiteral_nil
        | cons s more => exact follow_withLiteral (List.cons_ne_nil s more)
      cases more <;> exact congrArg (fun s => Except.ok (Scan.mk _ s _)) hliteral.symm
    · by_cases hclose : c = '}'
      · subst hclose
        cases more <;> rfl
      · cases more <;> simp [behind, step, hopen, hclose, Except.mapError, Nat.add_assoc]
  | expression start u nested =>
    by_cases hclose : c = '}'
    · subst hclose
      cases nested with
      | some place => rfl
      | none =>
        simp only [behind, step, Option.map_none, Group.read_behind, if_true]
        cases Group.read start u.reverse with
        | error e => rfl
        | ok g =>
          have hnext : behind n segments seen ⟨position + 1, more ++ [.group g], .literal []⟩ =
              ⟨n + position + 1, follow segments seen more ++ [.group g], .literal []⟩ := by
            rw [behind_literal n _ (by simp), follow_append_group, Nat.add_assoc]
          exact congrArg Except.ok hnext.symm
    · by_cases hopen : c = '{'
      · subst hopen
        cases nested <;> rfl
      · simp [behind, step, hopen, hclose, Except.mapError, Nat.add_assoc]

/-- A run behind a text is the run that it is by itself. -/
theorem run_behind (n : Nat) (segments : List Segment) (seen : Text) (scan : Scan) (t : Text) :
    (scan.behind n segments seen).run t =
      behind n segments seen <$> (scan.run t).mapError (ReadError.behind n) := by
  induction t generalizing scan with
  | nil => rfl
  | cons c t ih =>
    rw [run, run, List.foldlM_cons, List.foldlM_cons, step_behind]
    cases scan.step c with
    | error e => rfl
    | ok next => exact ih next

/-- A scan behind a text may end where it may by itself, and what it has read follows what
stands before it. -/
theorem finish_behind (n : Nat) (segments : List Segment) (seen : Text) (scan : Scan) :
    (scan.behind n segments seen).finish =
      (fun u : Template => (⟨follow segments seen u.segments⟩ : Template)) <$>
        scan.finish.mapError (ReadError.behind n) := by
  obtain ⟨position, more, mode⟩ := scan
  cases mode with
  | literal u =>
    cases more with
    | nil => exact congrArg (fun s => Except.ok (Template.mk s)) follow_withLiteral_nil.symm
    | cons s more =>
      exact congrArg (fun s => Except.ok (Template.mk s))
        (follow_withLiteral (List.cons_ne_nil s more)).symm
  | expression start u nested => rfl

/-- A pattern that is read leaves its scan in its last literal, or in an empty one. -/
theorem exists_run_of_read {p : Text} {t : Template} (h : Template.read p = .ok t) :
    ∃ segments seen, run {} p = .ok ⟨p.length, segments, .literal seen⟩ ∧
      t.segments = withLiteral segments seen := by
  obtain ⟨scan, hrun, hfinish⟩ := bind_eq_ok_iff.mp h
  have hreads := Reads.start.run hrun
  rw [List.nil_append] at hreads
  cases hreads with
  | @literal parts done seen position _ _ _ _ hposition =>
    have hlength : position = (done ++ seen.reverse).length := by simpa using hposition
    rw [hlength] at hrun
    cases hfinish
    exact ⟨_, _, hrun, rfl⟩
  | expression => cases hfinish

end Scan

namespace Template

/-- What is read behind a pattern follows its last literal. -/
theorem read_append {p : Text} {t : Template} (h : read p = .ok t) :
    ∃ segments seen, t.segments = Scan.withLiteral segments seen ∧ ∀ q,
      read (p ++ q) = (fun u : Template => (⟨Scan.follow segments seen u.segments⟩ : Template)) <$>
        (read q).mapError (ReadError.behind p.length) := by
  obtain ⟨segments, seen, hrun, ht⟩ := Scan.exists_run_of_read h
  refine ⟨segments, seen, ht, fun q => ?_⟩
  have hbehind : Scan.behind p.length segments seen {} = ⟨p.length, segments, .literal seen⟩ := rfl
  have hgo := Scan.run_behind p.length segments seen {} q
  rw [read, read, Scan.run_append, hrun]
  change Scan.run ⟨p.length, segments, .literal seen⟩ q >>= _ = _
  rw [← hbehind, hgo]
  cases Scan.run {} q with
  | error e => rfl
  | ok scan => exact Scan.finish_behind p.length segments seen scan

private theorem names_withLiteral (segments : List Segment) (u : Text) :
    (parts ⟨Scan.withLiteral segments u⟩).flatMap Part.names =
      (parts ⟨segments⟩).flatMap Part.names := by
  cases u with
  | nil => rfl
  | cons c u => simp [Scan.withLiteral, parts, Segment.part, Part.names]

private theorem names_withLiteral_append (segments : List Segment) (u : Text)
    (more : List Segment) :
    (parts ⟨Scan.withLiteral segments u ++ more⟩).flatMap Part.names =
      (parts ⟨segments⟩).flatMap Part.names ++ (parts ⟨more⟩).flatMap Part.names := by
  rw [← names_withLiteral segments u, parts, parts, parts, List.map_append, List.flatMap_append]

private theorem names_follow (segments : List Segment) (seen : Text) (more : List Segment) :
    (parts ⟨Scan.follow segments seen more⟩).flatMap Part.names =
      (parts ⟨Scan.withLiteral segments seen⟩).flatMap Part.names ++
        (parts ⟨more⟩).flatMap Part.names := by
  rw [names_withLiteral]
  unfold Scan.follow
  split
  · rename_i t more
    exact names_withLiteral_append segments (t.reverse ++ seen) more
  · exact names_withLiteral_append segments seen more

private theorem expandWith_withLiteral (segments : List Segment) (u : Text)
    (lookup : Text → Value) :
    expandWith ⟨Scan.withLiteral segments u⟩ lookup = do
      let left ← expandWith ⟨segments⟩ lookup
      return left ++ u.reverse := by
  cases u with
  | nil => simp [Scan.withLiteral]
  | cons c u =>
    have hliteral : Scan.withLiteral segments (c :: u) =
        segments ++ [.literal (c :: u).reverse] := rfl
    rw [hliteral, expandWith_append, expandWith_singleton]
    rfl

private theorem expandWith_follow (segments : List Segment) (seen : Text) (more : List Segment)
    (lookup : Text → Value) :
    expandWith ⟨Scan.follow segments seen more⟩ lookup = do
      let left ← expandWith ⟨Scan.withLiteral segments seen⟩ lookup
      let right ← expandWith ⟨more⟩ lookup
      return left ++ right := by
  unfold Scan.follow
  split
  · rename_i t more
    have hliteral : (Segment.literal t).expand lookup = pure t := rfl
    simp only [expandWith_append, expandWith_withLiteral, expandWith_cons, hliteral, bind_assoc,
      pure_bind, List.reverse_append, List.reverse_reverse, List.append_assoc]
  · rw [expandWith_append]

private theorem variableNames_follow {t : Template} {segments : List Segment} {seen : Text}
    (ht : t.segments = Scan.withLiteral segments seen) (u : Template) :
    variableNames ⟨Scan.follow segments seen u.segments⟩ =
      t.variableNames ++ u.variableNames.filter (· ∉ t.variableNames) := by
  have hparts : parts ⟨Scan.withLiteral segments seen⟩ = t.parts := by rw [parts, parts, ht]
  have hall : variableNames ⟨Scan.follow segments seen u.segments⟩ =
      OrderedSet.insertAll (· == ·) t.variableNames (u.parts.flatMap Part.names) := by
    rw [variableNames_eq, names_follow, hparts, OrderedSet.ofList, OrderedSet.insertAll_append,
      variableNames_eq t]
    rfl
  have htrans : ∀ x y z : Text, (x == y) = true → (y == z) = true → (x == z) = true := by
    intro x y z hxy hyz
    rwa [eq_of_beq hxy]
  rw [hall, OrderedSet.insertAll_eq_append_filter htrans, ← variableNames_eq u]
  refine congrArg (t.variableNames ++ ·) (List.filter_congr fun name _ => ?_)
  rw [List.any_beq', List.contains_eq_mem, decide_not]

/-- Behind an accepted pattern the texts accepted by themselves are accepted, and names, expansions
and flaws follow on. -/
theorem parse_append {p : Text} {t : Template} (h : parse p = .ok t) (q : Text) :
    ((∃ w, parse (p ++ q) = .ok w) ↔ ∃ u, parse q = .ok u) ∧
      (∀ u, parse q = .ok u → ∃ w, parse (p ++ q) = .ok w ∧
        w.variableNames = t.variableNames ++ u.variableNames.filter (· ∉ t.variableNames) ∧
        ∀ values arguments, w.expand values arguments = do
          let left ← t.expand values arguments
          let right ← u.expand values arguments
          return left ++ right) ∧
      ∀ fault, parse q = .error fault → ∃ e : ReadError, fault = e.toFault q ∧
        parse (p ++ q) = .error ((e.behind p.length).toFault (p ++ q)) := by
  obtain ⟨segments, seen, ht, hread⟩ := read_append (parse_eq_ok_iff_read.mp h)
  have hok : ∀ u, parse q = .ok u →
      parse (p ++ q) = .ok ⟨Scan.follow segments seen u.segments⟩ := by
    intro u hu
    rw [parse_eq_ok_iff_read, hread q, parse_eq_ok_iff_read.mp hu]
    rfl
  have herror : ∀ fault, parse q = .error fault → ∃ e : ReadError, fault = e.toFault q ∧
      parse (p ++ q) = .error ((e.behind p.length).toFault (p ++ q)) := by
    intro fault hfault
    unfold parse at hfault ⊢
    rw [hread q]
    cases hq : read q with
    | ok u =>
      rw [hq] at hfault
      cases hfault
    | error e =>
      rw [hq] at hfault
      cases hfault
      exact ⟨e, rfl, rfl⟩
  refine ⟨⟨?_, fun ⟨u, hu⟩ => ⟨_, hok u hu⟩⟩, fun u hu => ⟨_, hok u hu, ?_, ?_⟩, herror⟩
  · rintro ⟨w, hw⟩
    cases hq : parse q with
    | ok u => exact ⟨u, rfl⟩
    | error fault =>
      obtain ⟨e, -, he⟩ := herror fault hq
      rw [he] at hw
      cases hw
  · exact variableNames_follow ht u
  · intro values arguments
    obtain ⟨_⟩ := t
    subst ht
    exact expandWith_follow segments seen u.segments _

/-- A literal that runs on over the border, a name on both sides of it, and a brace behind it
that closes nothing. -/
theorem parse_append_literal :
    ∃ t u w : Template, parse "/a\x7bx\x7db".toList = .ok t ∧
      parse "c\x7b?x,y\x7d".toList = .ok u ∧ parse "/a\x7bx\x7dbc\x7b?x,y\x7d".toList = .ok w ∧
      w.variableNames = ["x".toList, "y".toList] ∧
      (∀ values arguments, w.expand values arguments = do
        let left ← t.expand values arguments
        let right ← u.expand values arguments
        return left ++ right) ∧
      parse "c\x7d".toList = .error (.malformedTemplate "c\x7d".toList .unmatchedClose 1) ∧
      parse "/a\x7bx\x7dbc\x7d".toList =
        .error (.malformedTemplate "/a\x7bx\x7dbc\x7d".toList .unmatchedClose 7) := by
  obtain ⟨t, ht⟩ : ∃ t, parse "/a\x7bx\x7db".toList = .ok t := ⟨_, rfl⟩
  obtain ⟨u, hu⟩ : ∃ u, parse "c\x7b?x,y\x7d".toList = .ok u := ⟨_, rfl⟩
  obtain ⟨-, hok, -⟩ := parse_append ht "c\x7b?x,y\x7d".toList
  obtain ⟨w, hw, hnames, hexpand⟩ := hok u hu
  obtain ⟨-, -, herror⟩ := parse_append ht "c\x7d".toList
  obtain ⟨e, he, hclose⟩ := herror (.malformedTemplate "c\x7d".toList .unmatchedClose 1) rfl
  refine ⟨t, u, w, ht, hu, hw, ?_, hexpand, rfl, ?_⟩
  · cases ht
    cases hu
    exact hnames
  · cases e with
    | malformed flaw position =>
      cases he
      exact hclose
    | badName name => cases he

end Template

end WebLinking
