import WebLinking.Proofs.Percent
import WebLinking.Proofs.Template.Reading
import WebLinking.Proofs.Template.Rendering
import WebLinking.Proofs.Text.Splitting
import WebLinking.Template.Expansion

/-!
# Expansion in one pass

The algorithm of RFC 6570 makes one pass over the variables of an expression. It appends
to a single result and remembers only whether an element has been written, which decides
between the first mark and the separator. The library renders each variable on its own
and joins what is defined; both give the same text.
-/

namespace WebLinking

/-- The state of a pass: what has been written, and whether an element has been. -/
structure Pass where
  /-- The text so far. -/
  result : Text
  /-- An element has been written. -/
  begun : Bool

namespace Pass

/-- Writes one more element, after `first` if it is the first one and else after
`between`. -/
def add (first between : Text) (p : Pass) (write : Text → Text) : Pass :=
  ⟨write (p.result ++ if p.begun then between else first), true⟩

/-- Writes elements with a separator between neighbours at the end of a text. -/
def row (separator : Text) (writers : List (Text → Text)) (result : Text) : Text :=
  (writers.foldl (add [] separator) ⟨result, false⟩).result

end Pass

namespace Operator

/-- Appends an equals sign and a text, or the operator's own mark for names without a text. -/
def appendValue (operator : Operator) (encoded result : Text) : Text :=
  if operator.isNamed && encoded.isEmpty then result ++ operator.ifEmpty
  else result ++ '=' :: encoded

/-- Appends a text, after a name if the operator writes names. -/
def appendNamed (operator : Operator) (name encoded result : Text) : Text :=
  if operator.isNamed then operator.appendValue encoded (result ++ name) else result ++ encoded

/-- Appends a text as the operator encodes it. -/
def appendEncoded (operator : Operator) (t result : Text) : Text := result ++ operator.encode t

end Operator

/-- Appends a defined value of a variable in an expression of an operator. -/
def Variable.appendDatum (v : Variable) (operator : Operator) (d : Datum) (result : Text) : Text :=
  match d with
  | .scalar t => operator.appendNamed v.name (operator.encode (v.maxLength.elim t t.take)) result
  | .members items =>
    if v.isExploded then
      Pass.row [operator.separator]
        (items.map fun item => operator.appendNamed v.name (operator.encode item)) result
    else
      operator.appendNamed v.name (Pass.row [','] (items.map operator.appendEncoded) []) result
  | .entries pairs =>
    if v.isExploded then
      Pass.row [operator.separator]
        (pairs.map fun pair text =>
          operator.appendValue (operator.encode pair.2) (operator.appendEncoded pair.1 text)) result
    else
      let texts := pairs.flatMap fun pair => [pair.1, pair.2]
      operator.appendNamed v.name (Pass.row [','] (texts.map operator.appendEncoded) []) result

/-- One step of the pass: an undefined variable is skipped. -/
def Pass.step (operator : Operator) (lookup : Text → Value) (p : Pass) (v : Variable) : Pass :=
  match (lookup v.name).datum? with
  | none => p
  | some d => p.add operator.first [operator.separator] (v.appendDatum operator d)

/-- The result of the pass over the variables of an expression. -/
def Group.onePass (g : Group) (lookup : Text → Value) : Text :=
  (g.vars.foldl (Pass.step g.operator lookup) ⟨[], false⟩).result

/-- A writer appends a text to whatever is there. -/
def Appends (write : Text → Text) (t : Text) : Prop := ∀ result, write result = result ++ t

namespace Pass

variable {first between : Text} {writers : List (Text → Text)} {pieces : List Text}

/-- One step writes what stands before the element, and the element. -/
theorem add_eq {write : Text → Text} {t : Text} (h : Appends write t) (p : Pass) :
    p.add first between write = ⟨p.result ++ (if p.begun then between else first) ++ t, true⟩ := by
  rw [add, h]

private theorem run_begun (h : List.Forall₂ Appends writers pieces) (result : Text) :
    (writers.foldl (add first between) ⟨result, true⟩).result =
      result ++ pieces.flatMap (between ++ ·) := by
  induction h generalizing result with
  | nil => simp
  | cons hwrite _ ih =>
    rw [List.foldl_cons, add_eq hwrite, ih]
    simp

/-- A run from nothing writes the first mark and the elements with separators between
them, or nothing if there is no element. -/
theorem run_eq (first between : Text) (h : List.Forall₂ Appends writers pieces)
    (result : Text) :
    (writers.foldl (add first between) ⟨result, false⟩).result =
      result ++ if pieces.isEmpty then [] else first ++ Text.joinWith between pieces := by
  cases h with
  | nil => simp
  | cons hwrite hmore =>
    rw [List.foldl_cons, add_eq hwrite, run_begun hmore, Text.joinWith_cons]
    simp

/-- A row appends its elements with separators between them. -/
theorem row_eq (h : List.Forall₂ Appends writers pieces) :
    Appends (row between writers) (Text.joinWith between pieces) := by
  intro result
  rw [row, run_eq [] between h]
  cases pieces with
  | nil => rfl
  | cons piece more => rfl

end Pass

private theorem forall₂_map {α : Type} {write : α → Text → Text} {piece : α → Text}
    (h : ∀ x, Appends (write x) (piece x)) (xs : List α) :
    List.Forall₂ Appends (xs.map write) (xs.map piece) := by
  rw [List.forall₂_map_left_iff, List.forall₂_map_right_iff, List.forall₂_same]
  exact fun x _ => h x

private theorem joinWith_alternating (encode : Text → Text) (pairs : List (Text × Text)) :
    Text.joinWith [','] ((pairs.flatMap fun pair => [pair.1, pair.2]).map encode) =
      Text.joinWith [','] (pairs.map fun pair => encode pair.1 ++ ',' :: encode pair.2) := by
  have hmore : ∀ more : List (Text × Text),
      ((more.flatMap fun pair => [pair.1, pair.2]).map encode).flatMap ([','] ++ ·) =
        (more.map fun pair => encode pair.1 ++ ',' :: encode pair.2).flatMap ([','] ++ ·) := by
    intro more
    induction more with
    | nil => rfl
    | cons pair more ih => simpa using ih
  cases pairs with
  | nil => rfl
  | cons pair more =>
    rw [List.flatMap_cons, List.cons_append, List.cons_append, List.nil_append, List.map_cons,
      List.map_cons, List.map_cons, Text.joinWith_cons, Text.joinWith_cons, List.flatMap_cons,
      hmore more]
    simp

namespace Variable

variable (v : Variable)

/-- A named value is what the pass appends for it. -/
theorem appends_named (encoded : Text) :
    Appends (v.operator.appendNamed v.name encoded) (v.named encoded) := by
  intro result
  unfold Operator.appendNamed Operator.appendValue named
  cases v.operator.isNamed with
  | false => simp
  | true => cases encoded <;> simp

/-- A written pair is what the pass appends for it, since only the empty text is encoded
as the empty text. -/
theorem appends_explodedPair (pair : Text × Text) :
    Appends (fun text => v.operator.appendValue (v.operator.encode pair.2)
      (v.operator.appendEncoded pair.1 text)) (v.explodedPair pair) := by
  intro result
  have hempty : (v.operator.encode pair.2).isEmpty = pair.2.isEmpty := by
    rw [Bool.eq_iff_iff, List.isEmpty_iff, List.isEmpty_iff, Operator.encode_eq_nil_iff]
  unfold Operator.appendValue Operator.appendEncoded explodedPair encode
  rw [hempty]
  split <;> simp

private theorem appends_encoded (texts : List Text) :
    Appends (Pass.row [','] (texts.map v.operator.appendEncoded))
      (Text.joinWith [','] (texts.map v.encode)) :=
  Pass.row_eq (forall₂_map (fun _ _ => rfl) texts)

/-- A written list is what the pass appends for it. -/
theorem appends_writeItems (items : List Text) :
    Appends (v.appendDatum v.operator (.members items)) (v.writeItems items) := by
  intro result
  simp only [appendDatum, writeItems]
  split
  · exact Pass.row_eq (forall₂_map (fun item => v.appends_named (v.encode item)) items) result
  · rw [v.appends_encoded items [], List.nil_append]
    exact v.appends_named _ result

/-- A written mapping is what the pass appends for it. -/
theorem appends_writePairs (pairs : List (Text × Text)) :
    Appends (v.appendDatum v.operator (.entries pairs)) (v.writePairs pairs) := by
  intro result
  simp only [appendDatum, writePairs]
  split
  · exact Pass.row_eq (forall₂_map v.appends_explodedPair pairs) result
  · rw [v.appends_encoded _ [], List.nil_append, joinWith_alternating]
    exact v.appends_named _ result

/-- A written scalar is what the pass appends for it. -/
theorem appends_writeScalar (t : Text) :
    Appends (v.appendDatum v.operator (.scalar t)) (v.writeScalar t) := by
  intro result
  simp only [appendDatum, writeScalar]
  cases v.maxLength <;> exact v.appends_named _ result

/-- What is written of a defined value is what the pass appends for it. -/
theorem appends_write (d : Datum) : Appends (v.appendDatum v.operator d) (v.write d) := by
  cases d with
  | scalar t => exact v.appends_writeScalar t
  | members items => exact v.appends_writeItems items
  | entries pairs => exact v.appends_writePairs pairs

/-- A variable that renders is defined exactly if the pass finds a defined value, and then
the pass appends what is rendered. -/
theorem appends_render {v : Variable} {value : Value} {r : Option Text}
    (h : v.render value = .ok r) :
    Option.Rel (fun d t => Appends (v.appendDatum v.operator d) t) value.datum? r := by
  rw [← map_write_of_render h]
  cases value.datum? with
  | none => exact .none
  | some d => exact .some (v.appends_write d)

end Variable

namespace Group

private theorem foldl_step (operator : Operator) (lookup : Text → Value) (vs : List Variable)
    (p : Pass) :
    vs.foldl (Pass.step operator lookup) p =
      (vs.filterMap fun v => (lookup v.name).datum?.map (v.appendDatum operator)).foldl
        (Pass.add operator.first [operator.separator]) p := by
  rw [List.foldl_filterMap]
  congr 1
  funext p v
  unfold Pass.step
  cases (lookup v.name).datum? <;> rfl

private theorem forall₂_rendered {operator : Operator} {lookup : Text → Value}
    {vs : List Variable} {rendered : List (Option Text)}
    (hoperator : ∀ v ∈ vs, v.operator = operator)
    (h : List.Forall₂ (fun v r => v.render (lookup v.name) = .ok r) vs rendered) :
    List.Forall₂ Appends
      (vs.filterMap fun v => (lookup v.name).datum?.map (v.appendDatum operator))
      (rendered.filterMap id) := by
  induction h with
  | nil => exact .nil
  | @cons v r vs rendered hv _ ih =>
    obtain ⟨rfl, hmore⟩ := List.forall_mem_cons.mp hoperator
    have hrel := Variable.appends_render hv
    rw [List.filterMap_cons, List.filterMap_cons]
    generalize (lookup v.name).datum? = d at hrel
    cases hrel with
    | none => exact ih hmore
    | some happends => exact .cons happends (ih hmore)

/-- Expansion of an expression is one pass over its variables, whenever each of them has a
rendering. -/
theorem expand_eq_onePass {g : Group} (hg : g.IsUniform) {lookup : Text → Value}
    (h : ∀ v ∈ g.vars, ∃ r, v.render (lookup v.name) = .ok r) :
    g.expand lookup = .ok (g.onePass lookup) := by
  obtain ⟨rendered, hrendered⟩ := exists_mapM_eq_ok h
  have honePass := Pass.run_eq g.operator.first [g.operator.separator]
    (forall₂_rendered hg (mapM_eq_ok_iff.mp hrendered)) []
  rw [onePass, foldl_step, honePass, expand, hrendered]
  refine bind_eq_ok_iff.mpr ⟨rendered, rfl, ?_⟩
  cases rendered.filterMap id <;> rfl

/-- A query with a prefix, an undefined variable, exploded composites with absent members, and an
empty value. -/
theorem expand_eq_onePass_query :
    ∃ (g : Group) (values : Bindings), g.text = "\x7b?x:3,u,l*,m*,e\x7d".toList ∧
      g.expand (Bindings.effective values []) = .ok (g.onePass (Bindings.effective values [])) ∧
      g.onePass (Bindings.effective values []) = "?x=a%20b&l=r&l=&k=&j=1&e=".toList := by
  let g : Group := ⟨.query, [
    { name := ['x'], kind := .requestParam, maxLength := some 3 },
    { name := ['u'], kind := .requestParam }, { name := ['l'], kind := .list },
    { name := ['m'], kind := .list }, { name := ['e'], kind := .requestParam }]⟩
  let values : Bindings := [
    (['x'], .text "a b c".toList), (['l'], .list [.text ['r'], .null, .text []]),
    (['m'], .mapping [(.text ['k'], .text []), (.text ['i'], .null), (.text ['j'], .int 1)]),
    (['e'], .text [])]
  have huniform : g.IsUniform := by
    simp [g, Group.IsUniform, Variable.operator, VariableKind.operator]
  have hrenders : ∀ v ∈ g.vars,
      ∃ r, v.render (Bindings.effective values [] v.name) = .ok r := by
    simp only [g, List.forall_mem_cons]
    exact ⟨⟨_, rfl⟩, ⟨_, rfl⟩, ⟨_, rfl⟩, ⟨_, rfl⟩, ⟨_, rfl⟩, by simp⟩
  exact ⟨g, values, rfl, expand_eq_onePass huniform hrenders, by decide⟩

end Group

end WebLinking
