import WebLinking.Proofs.Number.Numeral
import WebLinking.Proofs.Template.Delimiters
import WebLinking.Proofs.Template.Flat

/-!
# Reading expansions back

An expression of an operator that encodes values in full can be read back, as long as each
composite value is exploded and none is cut. Its pieces stand between separators, one for
each scalar, member and entry that is defined, and each of them gives back what it was
written for.
-/

namespace WebLinking

open Percent (IsEncoded)

/-- What one piece of an expansion tells. -/
inductive Item where
  /-- The text of a scalar or of a member of a list. -/
  | text (t : Text)
  /-- The key and the value of an entry of a mapping. -/
  | entry (key value : Text)
  deriving DecidableEq, Repr

/-- The items of a defined value, in order. -/
def Datum.items : Datum → List Item
  | .scalar t => [.text t]
  | .members items => items.map .text
  | .entries pairs => pairs.map fun pair => .entry pair.1 pair.2

/-- The items of the variables of an expression, each with the name of its variable. -/
def Group.items (g : Group) (lookup : Text → Value) : List (Text × Item) :=
  g.vars.flatMap fun v =>
    ((lookup v.name).datum?.elim [] Datum.items).map fun item => (v.name, item)

/-- A piece tells an item: an entry is cut at its first equals sign, other texts follow the name. -/
def Item.IsToldBy (operator : Operator) (name piece : Text) : Item → Prop
  | .text t =>
    if operator.isNamed then
      (Text.cutAt '=' piece).1 = name ∧ Percent.decode? (Text.cutAt '=' piece).2 = some t
    else Percent.decode? piece = some t
  | .entry key value =>
    Percent.decode? (Text.cutAt '=' piece).1 = some key ∧
      Percent.decode? (Text.cutAt '=' piece).2 = some value

namespace Variable

/-- The pieces that a variable writes of a value, unless it puts members into one piece. -/
def pieces (v : Variable) : Datum → List Text
  | .scalar t => [v.named (v.encode t)]
  | .members items => items.map fun item => v.named (v.encode item)
  | .entries pairs => pairs.map v.explodedPair

variable {v : Variable} {d : Datum}

/-- A value that is neither cut nor a composite that is kept together is written in pieces. -/
theorem write_eq_joinWith_pieces (hlimit : v.maxLength = none)
    (hspread : (∃ t, d = .scalar t) ∨ v.isExploded = true) :
    v.write d = Text.joinWith [v.operator.separator] (v.pieces d) := by
  have hscalar : ∀ t, v.write (.scalar t) =
      Text.joinWith [v.operator.separator] (v.pieces (.scalar t)) := by
    intro t
    simp only [write, writeScalar, hlimit, pieces, Text.joinWith_cons, List.flatMap_nil,
      List.append_nil]
  rcases hspread with ⟨t, rfl⟩ | hexploded
  · exact hscalar t
  · cases d with
    | scalar t => exact hscalar t
    | members items => rw [write, writeItems, if_pos hexploded, pieces]
    | entries pairs => rw [write, writePairs, if_pos hexploded, pieces]

private theorem cutAt_ifEmpty {left : Text} (h : '=' ∉ left) (operator : Operator) :
    Text.cutAt '=' (left ++ operator.ifEmpty) = (left, []) := by
  have hifEmpty : operator.ifEmpty = [] ∨ operator.ifEmpty = ['='] := by
    cases operator <;> first | exact Or.inl rfl | exact Or.inr rfl
  rcases hifEmpty with hifEmpty | hifEmpty
  · rw [hifEmpty, List.append_nil, Text.cutAt_of_not_mem h]
  · rw [hifEmpty, Text.cutAt_append h]

private theorem cutAt_named (hnamed : v.operator.isNamed = true) (hname : IsVarname v.name)
    (encoded : Text) : Text.cutAt '=' (v.named encoded) = (v.name, encoded) := by
  have hequals : '=' ∉ v.name := hname.not_mem (by decide)
  unfold named
  rw [hnamed, if_neg (by decide)]
  split
  · rename_i hempty
    rw [cutAt_ifEmpty hequals, List.isEmpty_iff.mp hempty]
  · exact Text.cutAt_append hequals encoded

private theorem encode_eq (hoperator : v.operator.allowsReserved = false) (t : Text) :
    v.encode t = Percent.encodeUnreserved t := by
  rw [encode, Operator.encode, hoperator]
  exact if_neg Bool.false_ne_true

private theorem equals_not_mem_encode (hoperator : v.operator.allowsReserved = false) (t : Text) :
    '=' ∉ v.encode t := by
  intro hmem
  rw [encode_eq hoperator] at hmem
  rcases (Percent.isEncoded_encodeUnreserved t).allowed_or_of_mem hmem with h | h | h <;>
    revert h <;> decide

private theorem cutAt_explodedPair (hoperator : v.operator.allowsReserved = false)
    (pair : Text × Text) :
    Text.cutAt '=' (v.explodedPair pair) = (v.encode pair.1, v.encode pair.2) := by
  have hequals := equals_not_mem_encode hoperator pair.1
  unfold explodedPair
  split
  · rename_i hempty
    rw [Bool.and_eq_true, List.isEmpty_iff] at hempty
    rw [cutAt_ifEmpty hequals, hempty.2, encode_eq hoperator []]
    rfl
  · exact Text.cutAt_append hequals _

private theorem isToldBy_named (hoperator : v.operator.allowsReserved = false)
    (hname : IsVarname v.name) (t : Text) :
    (Item.text t).IsToldBy v.operator v.name (v.named (v.encode t)) := by
  have hdecode : Percent.decode? (v.encode t) = some t := by
    rw [encode_eq hoperator, Percent.decode?_encodeUnreserved]
  by_cases hnamed : v.operator.isNamed = true
  · simp only [Item.IsToldBy, hnamed, if_true, cutAt_named hnamed hname, hdecode, and_self]
  · rw [Bool.not_eq_true] at hnamed
    simp only [Item.IsToldBy, named, hnamed, Bool.not_false, Bool.false_eq_true, if_true, if_false,
      hdecode]

private theorem isToldBy_explodedPair (hoperator : v.operator.allowsReserved = false)
    (pair : Text × Text) :
    (Item.entry pair.1 pair.2).IsToldBy v.operator v.name (v.explodedPair pair) := by
  simp only [Item.IsToldBy, cutAt_explodedPair hoperator, encode_eq hoperator,
    Percent.decode?_encodeUnreserved, and_self]

/-- The pieces of a value tell its items, one each and in order. -/
theorem forall₂_isToldBy_pieces (hoperator : v.operator.allowsReserved = false)
    (hname : IsVarname v.name) (d : Datum) :
    List.Forall₂ (fun item piece => item.IsToldBy v.operator v.name piece) d.items
      (v.pieces d) := by
  cases d with
  | scalar t => exact .cons (isToldBy_named hoperator hname t) .nil
  | members items =>
    rw [Datum.items, pieces, List.forall₂_map_left_iff, List.forall₂_map_right_iff,
      List.forall₂_same]
    exact fun item _ => isToldBy_named hoperator hname item
  | entries pairs =>
    rw [Datum.items, pieces, List.forall₂_map_left_iff, List.forall₂_map_right_iff,
      List.forall₂_same]
    exact fun pair _ => isToldBy_explodedPair hoperator pair

/-- The characters that stand unencoded in a piece. -/
def passesInPiece (c : Char) : Bool := Percent.isUnreserved c || c == '='

/-- A piece has unreserved characters, triplets and equals signs only. -/
theorem isEncoded_of_mem_pieces (hoperator : v.operator.allowsReserved = false)
    (hname : IsVarname v.name) {piece : Text} (h : piece ∈ v.pieces d) :
    IsEncoded passesInPiece piece := by
  have hle : ∀ c, Percent.isUnreserved c = true → passesInPiece c = true := by
    intro c hc
    rw [passesInPiece, hc, Bool.true_or]
  have hequals : passesInPiece '=' = true := by decide
  have hname := hname.isEncoded.mono hle
  have hencode : ∀ t, IsEncoded passesInPiece (v.encode t) := by
    intro t
    rw [encode_eq hoperator]
    exact (Percent.isEncoded_encodeUnreserved t).mono hle
  cases d with
  | scalar t =>
    rw [List.mem_singleton.mp h]
    exact isEncoded_named hequals hname (hencode t)
  | members items =>
    obtain ⟨item, -, rfl⟩ := List.mem_map.mp h
    exact isEncoded_named hequals hname (hencode item)
  | entries pairs =>
    obtain ⟨pair, -, rfl⟩ := List.mem_map.mp h
    exact isEncoded_explodedPair hequals (hencode pair.1) (hencode pair.2)

/-- A defined value has at least one piece. -/
theorem pieces_ne_nil (v : Variable) {value : Value} (hd : value.datum? = some d) :
    v.pieces d ≠ [] := by
  cases value with
  | scalar s => cases hd; exact List.cons_ne_nil _ _
  | member m => cases hd; exact List.cons_ne_nil _ _
  | list items =>
    obtain ⟨hne, rfl⟩ := Datum.unlessEmpty_eq_some hd
    exact mt List.map_eq_nil_iff.mp hne
  | tuple items =>
    obtain ⟨hne, rfl⟩ := Datum.unlessEmpty_eq_some hd
    exact mt List.map_eq_nil_iff.mp hne
  | mapping entries =>
    obtain ⟨hne, rfl⟩ := Datum.unlessEmpty_eq_some hd
    exact mt List.map_eq_nil_iff.mp hne
  | _ => cases hd

end Variable

namespace Operator

/-- The operators that encode values in full and have a separator that does not occur in what
is encoded. -/
def separating : List Operator := [.simple, .path, .parameter, .query, .continuation]

variable {operator : Operator}

/-- They let no reserved characters pass. -/
theorem allowsReserved_of_separating (h : operator ∈ separating) :
    operator.allowsReserved = false := by
  revert operator
  decide

/-- The separator is none of the characters of a piece. -/
theorem separator_not_mem (h : operator ∈ separating) {piece : Text}
    (hpiece : IsEncoded Variable.passesInPiece piece) : operator.separator ∉ piece := by
  have hseparator : ∀ operator ∈ separating,
      Variable.passesInPiece operator.separator = false ∧ operator.separator ≠ '%' ∧
        Text.isHexDigit operator.separator = false := by
    decide
  obtain ⟨hallowed, hpercent, hdigit⟩ := hseparator operator h
  intro hmem
  rcases hpiece.allowed_or_of_mem hmem with he | he | he
  · exact absurd (hallowed.symm.trans he) Bool.false_ne_true
  · exact hpercent he
  · exact absurd (hdigit.symm.trans he) Bool.false_ne_true

end Operator

namespace Group

/-- The pieces of the variables of an expression, a row for each variable that is defined. -/
def rows (g : Group) (lookup : Text → Value) : List (List Text) :=
  g.vars.filterMap fun v => (lookup v.name).datum?.map v.pieces

variable {g : Group} {lookup : Text → Value}

private theorem exists_pieces_of_mem_rows {row : List Text} (h : row ∈ g.rows lookup) :
    ∃ v ∈ g.vars, ∃ d, (lookup v.name).datum? = some d ∧ v.pieces d = row := by
  obtain ⟨v, hv, hrow⟩ := List.mem_filterMap.mp h
  obtain ⟨d, hd, hrow⟩ := Option.map_eq_some_iff.mp hrow
  exact ⟨v, hv, d, hd, hrow⟩

/-- No row is empty, so that undefined variables leave no trace. -/
theorem nil_not_mem_rows (g : Group) (lookup : Text → Value) : [] ∉ g.rows lookup := by
  intro h
  obtain ⟨v, -, d, hd, hnil⟩ := exists_pieces_of_mem_rows h
  exact v.pieces_ne_nil hd hnil

/-- There is a piece if a variable is defined. -/
theorem flatten_rows_ne_nil (hflat : ∀ v ∈ g.vars, (lookup v.name).IsFlat v.isExploded)
    (hdefined : ∃ v ∈ g.vars, (lookup v.name).isUndefined = false) :
    (g.rows lookup).flatten ≠ [] := by
  obtain ⟨v, hv, hvalue⟩ := hdefined
  obtain ⟨d, hd⟩ := (hflat v hv).exists_datum hvalue
  have hrow : v.pieces d ∈ g.rows lookup :=
    List.mem_filterMap.mpr ⟨v, hv, by rw [hd, Option.map_some]⟩
  intro hnil
  exact v.pieces_ne_nil hd (List.flatten_eq_nil_iff.mp hnil _ hrow)

/-- The separator occurs in none of the pieces. -/
theorem separator_not_mem_of_mem_rows (hoperator : g.operator ∈ Operator.separating)
    (huniform : g.IsUniform) (hnames : ∀ v ∈ g.vars, IsVarname v.name) {piece : Text}
    (h : piece ∈ (g.rows lookup).flatten) : g.operator.separator ∉ piece := by
  obtain ⟨row, hrow, hpiece⟩ := List.mem_flatten.mp h
  obtain ⟨v, hv, d, -, rfl⟩ := exists_pieces_of_mem_rows hrow
  have hreserved : v.operator.allowsReserved = false := by
    rw [huniform v hv]
    exact Operator.allowsReserved_of_separating hoperator
  exact Operator.separator_not_mem hoperator
    (Variable.isEncoded_of_mem_pieces hreserved (hnames v hv) hpiece)

/-- The pieces of all variables tell the items of all variables. -/
theorem forall₂_isToldBy_rows (hoperator : g.operator ∈ Operator.separating)
    (huniform : g.IsUniform) (hnames : ∀ v ∈ g.vars, IsVarname v.name) :
    List.Forall₂ (fun item piece => item.2.IsToldBy g.operator item.1 piece) (g.items lookup)
      (g.rows lookup).flatten := by
  have hreserved := Operator.allowsReserved_of_separating hoperator
  obtain ⟨operator, vars⟩ := g
  unfold items rows
  clear hoperator
  induction vars with
  | nil => exact .nil
  | cons v vars ih =>
    obtain ⟨hv, hvars⟩ := List.forall_mem_cons.mp huniform
    obtain ⟨hname, hnames⟩ := List.forall_mem_cons.mp hnames
    have hmore := ih hvars hnames hreserved
    rw [List.flatMap_cons, List.filterMap_cons]
    cases (lookup v.name).datum? with
    | none => exact hmore
    | some d =>
      have hrow := v.forall₂_isToldBy_pieces (hv ▸ hreserved) hname d
      rw [hv] at hrow
      exact List.rel_append (List.forall₂_map_left_iff.mpr hrow) hmore

/-- If all variables render, an expression joins the pieces of all of them after the operator's
mark. -/
theorem expand_eq_joinWith_rows (huniform : g.IsUniform) (hlimit : ∀ v ∈ g.vars, v.maxLength = none)
    (hflat : ∀ v ∈ g.vars, (lookup v.name).IsFlat v.isExploded)
    (hne : (g.rows lookup).flatten ≠ []) {parts : List Text}
    (h : Variable.renderings g.vars lookup = .ok parts) :
    g.expand lookup =
      .ok (g.operator.first ++ Text.joinWith [g.operator.separator] (g.rows lookup).flatten) := by
  have hparts : parts = (g.rows lookup).map (Text.joinWith [g.operator.separator]) := by
    rw [Variable.eq_of_renderings h, rows, List.map_filterMap]
    refine List.filterMap_congr fun v hv => ?_
    cases hd : (lookup v.name).datum? with
    | none => rfl
    | some d =>
      have hwrite := Variable.write_eq_joinWith_pieces (hlimit v hv)
        ((hflat v hv).scalar_or_exploded hd)
      rw [huniform v hv] at hwrite
      exact congrArg some hwrite
  have hsome : ¬parts.isEmpty = true := by
    rw [hparts, List.isEmpty_iff, List.map_eq_nil_iff]
    intro hnil
    exact hne (by rw [hnil, List.flatten_nil])
  calc
    g.expand lookup = .ok (g.operator.joined parts) := by
      rw [expand_eq, h]
      rfl
    _ = .ok (g.operator.first ++ Text.joinWith [g.operator.separator] (g.rows lookup).flatten) := by
      rw [Operator.joined, if_neg hsome, hparts, Text.joinWith_flatten (g.nil_not_mem_rows lookup)]

/-- If every text can be written, the expansion is cut at the separators into one piece for each
item; if not, it fails. -/
theorem expand_recoverable (hoperator : g.operator ∈ Operator.separating) (huniform : g.IsUniform)
    (hnames : ∀ v ∈ g.vars, IsVarname v.name) (hlimit : ∀ v ∈ g.vars, v.maxLength = none)
    (hflat : ∀ v ∈ g.vars, (lookup v.name).IsFlat v.isExploded)
    (hdefined : ∃ v ∈ g.vars, (lookup v.name).isUndefined = false) :
    ((∀ v ∈ g.vars, ∀ x ∈ (lookup v.name).leaves, x.text? ≠ none) →
      ∃ rest, g.expand lookup = .ok (g.operator.first ++ rest) ∧
        List.Forall₂ (fun item piece => item.2.IsToldBy g.operator item.1 piece) (g.items lookup)
          (Text.splitOn g.operator.separator rest)) ∧
    ((∃ v ∈ g.vars, ∃ x ∈ (lookup v.name).leaves, x.text? = none) →
      g.expand lookup = .error .longInteger) := by
  cases hparts : Variable.renderings g.vars lookup with
  | ok parts =>
    refine ⟨fun _ => ?_, ?_⟩
    · have hne := flatten_rows_ne_nil hflat hdefined
      refine ⟨_, expand_eq_joinWith_rows huniform hlimit hflat hne hparts, ?_⟩
      rw [Text.splitOn_joinWith hne fun _ h =>
        separator_not_mem_of_mem_rows hoperator huniform hnames h]
      exact forall₂_isToldBy_rows hoperator huniform hnames
    · rintro ⟨v, hv, x, hx, hlong⟩
      obtain ⟨o, ho⟩ := Variable.exists_render_of_renderings hparts hv
      exact absurd hlong (Variable.text?_ne_none_of_render (hflat v hv).isScalar_of_mem ho x hx)
  | error fault =>
    obtain ⟨v, hv, hrender⟩ := Variable.exists_mem_of_renderings_eq_error hparts
    obtain ⟨rfl, x, hx, htext⟩ :=
      Variable.eq_error_of_render (hflat v hv).isScalar_of_mem (hlimit v hv) hrender
    refine ⟨fun hwritable => absurd htext (hwritable v hv x hx), fun _ => ?_⟩
    rw [expand_eq, hparts]
    rfl

/-- A query with composites that have absent and empty members, an undefined variable and
characters that need encoding. -/
theorem expand_recoverable_query :
    ∃ (g : Group) (values : Bindings), g.text = "\x7b?l*,u,m*,e\x7d".toList ∧
      g.expand (Bindings.effective values []) = .ok ('?' :: "l=%C3%A9&l=&k=&%26%3D=1&e=".toList) ∧
      g.items (Bindings.effective values []) =
        [("l".toList, .text "é".toList), ("l".toList, .text []), ("m".toList, .entry ['k'] []),
          ("m".toList, .entry "&=".toList ['1']), ("e".toList, .text [])] ∧
      List.Forall₂ (fun item piece => item.2.IsToldBy g.operator item.1 piece)
        (g.items (Bindings.effective values []))
        (Text.splitOn '&' "l=%C3%A9&l=&k=&%26%3D=1&e=".toList) := by
  let g : Group := ⟨.query, [
    { name := "l".toList, kind := .list }, { name := "u".toList, kind := .requestParam },
    { name := "m".toList, kind := .list }, { name := "e".toList, kind := .requestParam }]⟩
  let values : Bindings := [
    ("l".toList, .list [.text "é".toList, .null, .text []]), ("u".toList, .list [.null]),
    ("m".toList, .mapping [(.text ['k'], .text []), (.text "&=".toList, .int 1)]),
    ("e".toList, .text [])]
  have huniform : g.IsUniform := by
    simp [g, Group.IsUniform, Variable.operator, VariableKind.operator]
  have hnames : ∀ v ∈ g.vars, IsVarname v.name := by
    simp only [g, List.forall_mem_cons]
    exact ⟨(isName_iff _).mp rfl, (isName_iff _).mp rfl, (isName_iff _).mp rfl,
      (isName_iff _).mp rfl, by simp⟩
  have hlimit : ∀ v ∈ g.vars, v.maxLength = none := by
    simp [g]
  have hflat : ∀ v ∈ g.vars, (Bindings.effective values [] v.name).IsFlat v.isExploded := by
    simp only [g, List.forall_mem_cons]
    exact ⟨.composite rfl (by decide), .undefined rfl, .composite rfl (by decide), .scalar rfl,
      by simp⟩
  have hdefined : ∃ v ∈ g.vars, (Bindings.effective values [] v.name).isUndefined = false :=
    ⟨_, List.mem_cons_self, rfl⟩
  have hexpand : g.expand (Bindings.effective values []) =
      .ok ('?' :: "l=%C3%A9&l=&k=&%26%3D=1&e=".toList) := by
    decide
  refine ⟨g, values, rfl, hexpand, by decide, ?_⟩
  have hwritable : ∀ v ∈ g.vars, ∀ x ∈ (Bindings.effective values [] v.name).leaves,
      x.text? ≠ none := by
    decide
  obtain ⟨rest, hrest, htold⟩ :=
    (expand_recoverable (by decide) huniform hnames hlimit hflat hdefined).1 hwritable
  have he : ['?'] ++ "l=%C3%A9&l=&k=&%26%3D=1&e=".toList = ['?'] ++ rest :=
    Except.ok.inj (hexpand.symm.trans hrest)
  rw [List.append_cancel_left he]
  exact htold

/-- A parameter in the path whose value is the smallest number of too many digits. -/
theorem exists_expand_eq_longInteger :
    ∃ (g : Group) (values : Bindings), g.text = "\x7b;page,size\x7d".toList ∧
      values = [("page".toList, .nat (10 ^ 4300)), ("size".toList, .nat 20)] ∧
      g.operator ∈ Operator.separating ∧ g.IsUniform ∧ (∀ v ∈ g.vars, IsVarname v.name) ∧
      (∀ v ∈ g.vars, v.maxLength = none) ∧
      (∀ v ∈ g.vars, (Bindings.effective values [] v.name).IsFlat v.isExploded) ∧
      (∃ v ∈ g.vars, (Bindings.effective values [] v.name).isUndefined = false) ∧
      g.expand (Bindings.effective values []) = .error .longInteger := by
  let g : Group := ⟨.parameter, [
    { name := "page".toList, kind := .pathStyleParameter },
    { name := "size".toList, kind := .pathStyleParameter }]⟩
  let n := 10 ^ Decimal.digitLimit
  let values : Bindings := [("page".toList, .nat n), ("size".toList, .nat 20)]
  have hlimit : Decimal.digitLimit = 4300 := rfl
  have huniform : g.IsUniform := by
    simp [g, Group.IsUniform, Variable.operator, VariableKind.operator]
  have hnames : ∀ v ∈ g.vars, IsVarname v.name := by
    simp only [g, List.forall_mem_cons]
    exact ⟨(isName_iff _).mp rfl, (isName_iff _).mp rfl, by simp⟩
  have hflat : ∀ v ∈ g.vars, (Bindings.effective values [] v.name).IsFlat v.isExploded := by
    simp only [g, List.forall_mem_cons]
    exact ⟨.scalar rfl, .scalar rfl, by simp⟩
  refine ⟨g, values, rfl, by rw [← hlimit], by decide, huniform, hnames, by simp [g], hflat,
    ⟨_, List.mem_cons_self, rfl⟩, ?_⟩
  have hpage : Bindings.effective values [] "page".toList = .nat n := rfl
  have htext : (Value.nat n).text? = none := Decimal.written?_eq_none (Nat.lt_irrefl n)
  rw [expand_eq, Variable.renderings, List.mapM_cons, hpage, Variable.render_of_isScalar rfl, htext]
  rfl

end Group

end WebLinking
