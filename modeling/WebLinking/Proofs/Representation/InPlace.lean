import WebLinking.Proofs.Representation.Failure

/-!
# Steps that are taken in place

A step gives a new representation, or a fault in its place. It stands for work on one
representation that stays where it is: links are added to it one by one, links are tested one
by one, and a fault breaks the work off and leaves what has been written until then. That this
is never anything, so that a failed step is as good as none, is a matter of the order of the
work: whatever may fail comes before the first write.
-/

namespace WebLinking

/-- Work on a representation in its place, which stays as it is at the moment of a fault. -/
abbrev InPlace (α : Type) : Type := EStateM Fault Representation α

namespace InPlace

variable {α : Type}

/-- Work that may fail and does not touch the representation. -/
def attempt (x : Except Fault α) : InPlace α := MonadExcept.ofExcept x

/-- Work that looks at the representation and does not touch it. -/
def inspect (look : Representation → Except Fault α) : InPlace α := do attempt (look (← get))

/-- Replaces the links. -/
def setLinks (links : List Link) : InPlace Unit := modify fun m => { m with links }

/-- Adds links one after another. -/
def add : List Link → InPlace Unit
  | [] => return ()
  | l :: more => do
    setLinks (OrderedSet.insert Link.sameAs (← get).links l)
    add more

/-- Tests links one after another, and gives those that do not pass. -/
def failing (test : Link → Except Fault Bool) : List Link → InPlace (List Link)
  | [] => return []
  | l :: more => do
    if ← attempt (test l) then failing test more
    else return l :: (← failing test more)

/-- Removes the links of a relation, or all links. -/
def removeLinks : (rel : Option RelationInput) → InPlace Unit
  | none => setLinks []
  | some rel => do
    let r ← attempt rel.resolve
    setLinks ((← get).links.filter fun l => !l.rel.sameAs r)

/-- Removes the links that pass a test. -/
def removeIf (test : Link → Except Fault Bool) : InPlace Unit := do
  setLinks (← failing test (← get).links)

/-- Takes a step in place. -/
def perform : Step → InPlace Answer
  | .add links => do
    add links
    return .nothing
  | .addIf condition supply => do
    if condition then add supply.links
    return supply.answer condition
  | .removeLinks rel => do
    removeLinks rel
    return .nothing
  | .removeIf test => do
    removeIf test.run
    return .nothing
  | .assignLinks links => do
    setLinks links
    return .nothing
  | .assign field value => do
    set (← inspect (·.assign field value))
    return .nothing
  | .links rel => return .links (← inspect (·.linksOf rel))
  | .link rel => return .link (← inspect (·.link? rel))
  | .requiredLink rel => return .link (some (← inspect (·.requiredLink rel)))
  | .hasLink rel => return .truth (← inspect (·.hasLink rel))
  | .hasLinks => return .truth (!(← get).links.isEmpty)
  | .content => return .value (← inspect (·.content))
  | .page => return .value (((← inspect (·.page?)).map Page.toValue).getD .null)
  | .nextLink => return .link (← inspect (·.nextLink?))
  | .previousLink => return .link (← inspect (·.previousLink?))

/-- Writes an outcome that is known: a new representation together with a result, or a fault. -/
def commit (outcome : Except Fault (α × Representation)) : InPlace α := do
  let (a, changed) ← attempt outcome
  set changed
  return a

variable {β : Type} (m : Representation)

/-- A fault is written by leaving the representation as it is. -/
theorem commit_eq_error_iff {outcome : Except Fault (α × Representation)} {fault : Fault}
    {m' : Representation} :
    commit outcome m = .error fault m' ↔ m' = m ∧ outcome = .error fault := by
  cases outcome with
  | ok result =>
    constructor
    · intro h
      cases h
    · rintro ⟨-, h⟩
      cases h
  | error e =>
    constructor
    · intro h
      cases h
      exact ⟨rfl, rfl⟩
    · rintro ⟨rfl, h⟩
      cases h
      rfl

private theorem attempt_bind (x : Except Fault α) (f : α → Except Fault β) :
    attempt (x >>= f) = attempt x >>= fun a => attempt (f a) := by
  cases x <;> rfl

private theorem add_eq (links : List Link) :
    add links m = commit (((), ·) <$> Except.ok (m.add links)) m := by
  induction links generalizing m with
  | nil => rfl
  | cons l more ih => exact ih _

/-- Testing links one after another writes nothing, wherever a test fails. -/
theorem failing_eq (test : Link → Except Fault Bool) (links : List Link) :
    failing test links = attempt (Representation.rejecting test links) := by
  induction links with
  | nil => rfl
  | cons l more ih =>
    rw [failing, Representation.rejecting, attempt_bind]
    congr 1
    funext passes
    rw [attempt_bind, ← ih]
    cases passes with
    | true => exact (bind_pure _).symm
    | false => rfl

private theorem removeLinks_eq (rel : Option RelationInput) :
    removeLinks rel m = commit (((), ·) <$> m.removeLinks rel) m := by
  cases rel with
  | none => rfl
  | some rel =>
    rw [removeLinks, Representation.removeLinks]
    cases rel.resolve <;> rfl

/-- A removal writes once, when all links have been tested. -/
theorem removeIf_eq (test : Link → Except Fault Bool) :
    removeIf test m = commit (((), ·) <$> m.removeIf test) m := by
  have h : removeIf test m = (failing test m.links >>= setLinks) m := rfl
  rw [h, failing_eq, Representation.removeIf]
  cases Representation.rejecting test m.links <;> rfl

/-- A step that asks writes nothing. -/
private theorem perform_ask {step : Step} {asked : Except Fault α} {answer : α → Answer}
    (hperform : perform step m = (answer <$> attempt asked) m)
    (htake : m.take step = (fun a => (answer a, none)) <$> asked) :
    perform step m = commit ((fun p => (p.1, m.after step)) <$> m.take step) m := by
  rw [hperform, Representation.after, htake]
  cases asked <;> rfl

/-- A step that changes the representation writes once. -/
private theorem perform_change {step : Step} {work : InPlace Unit} {answer : Answer}
    {changed : Except Fault Representation} (hwork : work m = commit (((), ·) <$> changed) m)
    (hperform : perform step m = (work >>= fun _ => pure answer) m)
    (htake : m.take step = (fun m' => (answer, some m')) <$> changed) :
    perform step m = commit ((fun p => (p.1, m.after step)) <$> m.take step) m := by
  have hbind : (work >>= fun _ => pure answer) m = commit ((answer, ·) <$> changed) m := by
    change EStateM.bind work (fun _ => pure answer) m = _
    rw [EStateM.bind, hwork]
    cases changed <;> rfl
  rw [hperform, hbind, Representation.after, htake]
  cases changed <;> rfl

/-- A step that is taken in place comes to what the step gives and to the representation after
it, written at the end. -/
theorem perform_eq (step : Step) :
    perform step m = commit ((fun p => (p.1, m.after step)) <$> m.take step) m := by
  cases step with
  | add links => exact perform_change m (add_eq m links) rfl rfl
  | addIf condition supply =>
    cases condition with
    | true => exact perform_change m (add_eq m supply.links) rfl rfl
    | false => rfl
  | removeLinks rel => exact perform_change m (removeLinks_eq m rel) rfl rfl
  | removeIf test => exact perform_change m (removeIf_eq m test.run) rfl rfl
  | assignLinks links => rfl
  | assign field value =>
    have hwrite : (inspect (·.assign field value) >>= set) m =
        commit (((), ·) <$> m.assign field value) m := by
      change (attempt (m.assign field value) >>= set) m = _
      cases m.assign field value <;> rfl
    have hperform : perform (.assign field value) m =
        ((inspect (·.assign field value) >>= set) >>= fun _ => pure .nothing) m := by
      rw [bind_assoc]
      rfl
    exact perform_change m hwrite hperform rfl
  | links rel => exact perform_ask m rfl rfl
  | link rel => exact perform_ask m rfl rfl
  | requiredLink rel => exact perform_ask m rfl rfl
  | hasLink rel => exact perform_ask m rfl rfl
  | hasLinks => rfl
  | content => exact perform_ask m rfl rfl
  | page => exact perform_ask m rfl rfl
  | nextLink => exact perform_ask m rfl rfl
  | previousLink => exact perform_ask m rfl rfl

end InPlace

namespace Representation

/-- A failed step leaves the representation as it was, and it fails in one of the ways told only. -/
theorem failed_step_changes_nothing (m m' : Representation) (fault : Fault) :
    (∀ step, InPlace.perform step m = .error fault m' ↔
      m' = m ∧ m.after step = m ∧ m.take step = .error fault) ∧
    (∀ step : Step, m.take step = .error fault ↔ step.Fails m fault) ∧
    ∀ test, InPlace.removeIf test m = .error fault m' ↔
      m' = m ∧ FirstFault test m.links fault := by
  refine ⟨fun step => ?_, fun _ => take_eq_error_iff, fun test => ?_⟩
  · rw [InPlace.perform_eq, InPlace.commit_eq_error_iff]
    refine and_congr_right fun _ => ⟨fun h => ?_, fun ⟨_, htake⟩ => by rw [htake]; rfl⟩
    have htake : m.take step = .error fault := bind_pure_eq_error_iff.mp h
    exact ⟨by rw [after, htake], htake⟩
  · rw [InPlace.removeIf_eq, InPlace.commit_eq_error_iff, ← removeIf_eq_error_iff]
    exact and_congr_right fun _ => bind_pure_eq_error_iff

/-- The representation after steps that are taken in place, where a fault does not keep the next
step from being taken. -/
def performAll (m : Representation) : List Step → Representation
  | [] => m
  | step :: steps =>
    match InPlace.perform step m with
    | .ok _ m' => m'.performAll steps
    | .error _ m' => m'.performAll steps

/-- The steps of a run that do not fail. -/
def succeeding (m : Representation) : List Step → List Step
  | [] => []
  | step :: steps =>
    match m.take step with
    | .ok _ => step :: (m.after step).succeeding steps
    | .error _ => m.succeeding steps

/-- A run in place ends where the run ends that leaves out the steps that fail. -/
theorem performAll_eq (m : Representation) (steps : List Step) :
    m.performAll steps = m.afterAll (m.succeeding steps) := by
  induction steps generalizing m with
  | nil => rfl
  | cons step steps ih =>
    rw [performAll, succeeding, InPlace.perform_eq]
    cases m.take step with
    | ok _ => exact ih (m.after step)
    | error _ => exact ih m

end Representation

end WebLinking
