import WebLinking.Proofs.Template.Composition
import WebLinking.Proofs.Template.Expansion

/-!
# Variables that calls yield

A variable is first made of fields, and then each call makes a variable of one that is there.
Most calls copy what they do not change and check nothing again, so every call has to leave a
valid variable by itself; a call that fails leaves the caller with the variable it had. What
a variable is on its own is then the same in each way of expanding it: alone, as the template
that is read from its text, and as the only variable of a template.
-/

namespace WebLinking

namespace Variable

/-- A call that makes a variable where there is none. -/
inductive Origin where
  /-- Makes the variable that fields describe. -/
  | ofFields (fields : Fields)
  /-- Makes a variable of a kind of a name and a description. -/
  | ofKind (kind : VariableKind) (name description : Value)
  deriving Repr

/-- The variable that a call makes. -/
def Origin.make : Origin → Except Fault Variable
  | .ofFields fields => check fields
  | .ofKind kind name description => check [
      (.text "name".toList, name),
      (.text "type".toList, .text kind.text),
      (.text "description".toList, description)]

/-- A call that makes a variable of one that is there. -/
inductive Call where
  /-- Changes the description. -/
  | withDescription (description : Option Text)
  /-- Puts an explode mark. -/
  | withExplode
  /-- Changes the prefix length. -/
  | withMaxLength (maxLength : Value)
  /-- Continues a query that has begun. -/
  | asContinued
  deriving Repr

namespace Call

/-- The variable that a call makes. -/
def run (v : Variable) : Call → Except Fault Variable
  | .withDescription description => .ok (v.withDescription description)
  | .withExplode => v.withExplode
  | .withMaxLength maxLength => v.withMaxLength maxLength
  | .asContinued => .ok v.asContinued

/-- The variable that a caller holds after a call, which is the one it had if the call fails. -/
def attempt (v : Variable) (call : Call) : Variable :=
  match call.run v with
  | .ok w => w
  | .error _ => v

end Call

/-- A variable that a call makes can be made. -/
theorem Origin.constructible_of_make {origin : Origin} {v : Variable}
    (h : origin.make = .ok v) : v.Constructible := by
  cases origin with
  | ofFields fields => exact .checked h
  | ofKind kind name description => exact .checked h

/-- A variable that is checked again under another prefix length has the name it had. -/
theorem name_of_withMaxLength {v w : Variable} {maxLength : Value}
    (h : v.withMaxLength maxLength = .ok w) : w.name = v.name := by
  obtain ⟨⟨hname, -⟩, -⟩ := check_eq_ok_iff.mp h
  exact (Checked.sound.inj hname).symm

namespace Call

variable {call : Call} {v w : Variable}

/-- A call makes a variable that can be made, under the name that is there. -/
theorem constructible_of_run (hv : v.Constructible) (h : call.run v = .ok w) :
    w.Constructible ∧ w.name = v.name := by
  cases call with
  | withDescription description =>
    cases h
    exact ⟨hv.withDescription description, rfl⟩
  | withExplode =>
    refine ⟨hv.withExplode h, ?_⟩
    simp only [run, Variable.withExplode] at h
    split at h
    · cases h
    · cases h
      rfl
  | withMaxLength maxLength => exact ⟨hv.withMaxLength h, name_of_withMaxLength h⟩
  | asContinued =>
    cases h
    exact ⟨hv.asContinued, rfl⟩

/-- After a call, whether it fails or not, the caller holds such a variable. -/
theorem constructible_attempt (call : Call) (hv : v.Constructible) :
    (call.attempt v).Constructible ∧ (call.attempt v).name = v.name := by
  unfold attempt
  split
  · rename_i w h
    exact constructible_of_run hv h
  · exact ⟨hv, rfl⟩

/-- After any number of calls the caller holds such a variable. -/
theorem constructible_foldl_attempt (calls : List Call) (hv : v.Constructible) :
    (calls.foldl attempt v).Constructible ∧ (calls.foldl attempt v).name = v.name := by
  induction calls generalizing v with
  | nil => exact ⟨hv, rfl⟩
  | cons call calls ih =>
    obtain ⟨hnext, hname⟩ := constructible_attempt call hv
    obtain ⟨hlast, hsame⟩ := ih hnext
    exact ⟨hlast, hsame.trans hname⟩

end Call

end Variable

namespace Template

variable {v : Variable}

/-- The template that has one variable and nothing else. -/
def single (v : Variable) : Template := ⟨[.group ⟨v.operator, [v]⟩]⟩

/-- A variable that is added to the empty template is all of it. -/
theorem withVariable_empty (v : Variable) : withVariable ⟨[]⟩ v = single v := by
  have hquery : hasQuery ⟨[]⟩ = false := rfl
  have hadapt : adapt ⟨[]⟩ v = v := by
    rw [adapt, hquery, Bool.and_false, if_neg Bool.false_ne_true]
  rw [withVariable, hadapt]
  rfl

/-- A variable is written as the template that has nothing else. -/
theorem text_single (v : Variable) : (single v).text = v.text := by
  simp [single, text, Segment.text, Group.text, Variable.text, Text.joinWith]

/-- The template of a variable that is written as the grammar writes a name is readable. -/
theorem isReadable_single (hv : v.spec.IsWellFormed) : (single v).IsReadable := by
  have hempty : parse [] = .ok ⟨[]⟩ := rfl
  rw [← withVariable_empty]
  exact (IsReadable.of_parse hempty).withVariable hv

/-- The text of a variable is read as what is left of its template when that is read again. -/
theorem parse_variable_text (hv : v.spec.IsWellFormed) :
    parse v.text = .ok (single v).reread := by
  rw [← text_single]
  exact (isReadable_single hv).parse_text

/-- The template of a variable expands as the variable does on its own. -/
theorem expand_single (v : Variable) (value : Value) :
    (single v).expand [(v.name, value)] [] = v.expand value := by
  have hvalue : Bindings.effective [(v.name, value)] [] v.name = value := by
    simp only [Bindings.effective, List.lookup_nil, List.lookup_cons, beq_self_eq_true,
      Option.getD_some]
  rw [expand, single, expandWith_singleton, Segment.expand, Group.expand_singleton, hvalue]

end Template

namespace Variable

/-- A variable that calls yield is valid, keeps its name, and is read back from its text. -/
theorem valid_of_calls {origin : Origin} {v : Variable} (h : origin.make = .ok v)
    (calls : List Call) :
    let w := calls.foldl Call.attempt v
    w.name = v.name ∧ IsVarname w.name ∧ (∀ n, w.maxLength = some n → 1 ≤ n ∧ n ≤ 9999) ∧
      (w.isExploded = true → w.maxLength = none) ∧
      ∃ u, Template.parse w.text = .ok ⟨[.group ⟨w.operator, [u]⟩]⟩ ∧
        u.operator = w.operator ∧ u.name = w.name ∧ u.isExploded = w.isExploded ∧
        u.maxLength = w.maxLength := by
  intro w
  obtain ⟨hw, hname⟩ := Call.constructible_foldl_attempt calls (Origin.constructible_of_make h)
  have hspec : w.spec.IsWellFormed := hw.wellFormed
  refine ⟨hname, hspec.name, hspec.bounds, hspec.exclusive, w.spec.toVariable w.operator,
    Template.parse_variable_text hspec, w.spec.toVariable_operator w.operator, ?_⟩
  have hsame : (w.spec.toVariable w.operator).spec = w.spec := w.spec.spec_toVariable w.operator
  simpa only [spec, Varspec.mk.injEq] using hsame

/-- An explode mark is refused while there is a prefix length, which is refused while there is a
mark. -/
theorem valid_of_calls_marks :
    ∃ (v w u : Variable) (calls : List Call),
      (Origin.ofKind .requestParam (.text "a.%41".toList) .null).make = .ok v ∧
      calls = [.withMaxLength (.int 3), .withExplode, .asContinued, .withMaxLength .null,
        .withExplode, .withMaxLength (.int 5)] ∧
      calls.foldl Call.attempt v = w ∧ w.explode = true ∧ w.maxLength = none ∧
      IsVarname w.name ∧ w.text = "\x7b&a.%41*\x7d".toList ∧
      Template.parse w.text = .ok ⟨[.group ⟨.continuation, [u]⟩]⟩ ∧ u.kind ≠ w.kind ∧
      u.isExploded = w.isExploded ∧ u.maxLength = w.maxLength := by
  let v : Variable := { name := "a.%41".toList, kind := .requestParam }
  let w : Variable := { name := "a.%41".toList, kind := .requestParamContinued, explode := true }
  let calls : List Call := [.withMaxLength (.int 3), .withExplode, .asContinued,
    .withMaxLength .null, .withExplode, .withMaxLength (.int 5)]
  have hmake : (Origin.ofKind .requestParam (.text "a.%41".toList) .null).make = .ok v := rfl
  have hcalls : calls.foldl Call.attempt v = w := by decide
  obtain ⟨-, hvarname, -, hexclusive, u, hparse, -, -, hexploded, hmaxLength⟩ :=
    valid_of_calls hmake calls
  rw [hcalls] at hvarname hexclusive hparse hexploded hmaxLength
  refine ⟨v, w, u, calls, hmake, rfl, hcalls, rfl, rfl, hvarname, rfl, hparse, ?_, hexploded,
    hmaxLength⟩
  cases hparse
  decide

/-- A variable expands alike on its own, as the template of its text, and added to the empty
template. -/
theorem Constructible.expand_alike {v : Variable} (hv : v.Constructible) (value : Value) :
    (∃ t, Template.parse v.text = .ok t ∧ t.expand [(v.name, value)] [] = v.expand value) ∧
      (Template.withVariable ⟨[]⟩ v).expand [(v.name, value)] [] = v.expand value := by
  have hread := Template.isReadable_single hv.wellFormed
  refine ⟨⟨(Template.single v).reread, Template.parse_variable_text hv.wellFormed, ?_⟩, ?_⟩
  · rw [Template.expand, Template.expandWith_reread hread.uniform]
    exact Template.expand_single v value
  · rw [Template.withVariable_empty]
    exact Template.expand_single v value

/-- A path parameter with a prefix length, at a text that is cut and at a list that is refused. -/
theorem Constructible.expand_alike_name :
    ∃ (v : Variable) (t : Template), v.Constructible ∧ Template.parse v.text = .ok t ∧
      v ∉ t.vars ∧ v.expand (.text "añb%".toList) = .ok ";n=a%C3%B1b".toList ∧
      t.expand [(v.name, .text "añb%".toList)] [] = .ok ";n=a%C3%B1b".toList ∧
      v.expand (.list [.int 1]) = v.obstacle .prefixedComposite ∧
      (Template.withVariable ⟨[]⟩ v).expand [(v.name, .list [.int 1])] [] =
        v.obstacle .prefixedComposite := by
  let v : Variable := { name := "n".toList, kind := .name, maxLength := some 3 }
  have hcheck : check [(.text "name".toList, .text "n".toList),
      (.text "type".toList, .text "name".toList), (.text "max_length".toList, .int 3)] = .ok v :=
    rfl
  have hv : v.Constructible := .checked hcheck
  have htext : v.expand (.text "añb%".toList) = .ok ";n=a%C3%B1b".toList := by decide
  have hlist : v.expand (.list [.int 1]) = v.obstacle .prefixedComposite := rfl
  obtain ⟨⟨t, ht, hread⟩, -⟩ := hv.expand_alike (.text "añb%".toList)
  obtain ⟨-, hadded⟩ := hv.expand_alike (.list [.int 1])
  refine ⟨v, t, hv, ht, ?_, htext, hread.trans htext, hlist, hadded.trans hlist⟩
  cases ht
  decide

end Variable

end WebLinking
