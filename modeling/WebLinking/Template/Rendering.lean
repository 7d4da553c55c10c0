import WebLinking.Template.Variable

/-!
# Rendering a value

What a variable makes of the value that it is given. The absent value, and a list or
mapping that is left empty once its absent members are dropped, count as undefined and
render nothing. Values without an order of members, and members that are not scalars,
are obstacles.
-/

namespace WebLinking

/-- A text that can be written; only an integer with too many digits has none. -/
def writable : Option Text → Except Fault Text
  | some t => .ok t
  | none => .error .longInteger

namespace Variable

/-- The obstacle named for a variable. -/
def obstacle {α : Type} (v : Variable) (o : Obstacle) : Except Fault α :=
  .error (.unresolvable v.name o)

/-- The text of one member of a variable's value. A stream shows as its type. -/
def memberText (v : Variable) : Value → Except Fault Text
  | .scalar s => writable s.spelling?
  | .member value => writable (Scalar.memberSpelling? value)
  | .stream kind => .ok ('<' :: kind.typeName ++ " object>".toList)
  | value => v.obstacle (.nested value.typeName)

/-- The texts of the members that are not absent. -/
def itemTexts (v : Variable) (items : List Value) : Except Fault (List Text) :=
  (items.filter fun item => !item.isNull).mapM v.memberText

/-- The texts of one entry of a mapping. -/
def pairTexts (v : Variable) (entry : Value × Value) : Except Fault (Text × Text) := do
  let key ← v.memberText entry.1
  let value ← v.memberText entry.2
  return (key, value)

/-- The texts of the entries whose value is not absent. -/
def entryTexts (v : Variable) (entries : List (Value × Value)) :
    Except Fault (List (Text × Text)) :=
  (entries.filter fun entry => !entry.2.isNull).mapM v.pairTexts

/-- Encodes a text as the operator of a variable asks. -/
def encode (v : Variable) (t : Text) : Text := v.operator.encode t

/-- Puts the name before an encoded value where the operator asks for it, with its mark for empty
values. -/
def named (v : Variable) (encoded : Text) : Text :=
  if !v.operator.isNamed then encoded
  else if encoded.isEmpty then v.name ++ v.operator.ifEmpty
  else v.name ++ '=' :: encoded

/-- Writes one entry of an exploded mapping. -/
def explodedPair (v : Variable) (pair : Text × Text) : Text :=
  if v.operator.isNamed && pair.2.isEmpty then v.encode pair.1 ++ v.operator.ifEmpty
  else v.encode pair.1 ++ '=' :: v.encode pair.2

/-- Writes the members of a list. -/
def writeItems (v : Variable) (items : List Text) : Text :=
  if v.isExploded then
    Text.joinWith [v.operator.separator] (items.map fun item => v.named (v.encode item))
  else v.named (Text.joinWith [','] (items.map v.encode))

/-- Writes the entries of a mapping. -/
def writePairs (v : Variable) (pairs : List (Text × Text)) : Text :=
  if v.isExploded then Text.joinWith [v.operator.separator] (pairs.map v.explodedPair)
  else
    v.named (Text.joinWith [','] (pairs.map fun pair => v.encode pair.1 ++ ',' :: v.encode pair.2))

/-- Writes a scalar, cut to the prefix length. -/
def writeScalar (v : Variable) (t : Text) : Text :=
  let cut :=
    match v.maxLength with
    | some n => t.take n
    | none => t
  v.named (v.encode cut)

/-- Writes members if there are any; a prefix length stands in the way of that. -/
def writeMembers {α : Type} (v : Variable) (write : List α → Text) (members : List α) :
    Except Fault (Option Text) :=
  if members.isEmpty then .ok none
  else if v.maxLength.isSome then v.obstacle .prefixedComposite
  else .ok (some (write members))

/-- Renders a value without what the operator puts before the first variable; `none`
stands for an undefined value. -/
def render (v : Variable) : Value → Except Fault (Option Text)
  | .null => .ok none
  | .unordered kind => v.obstacle (.noOrder kind.typeName)
  | .stream kind => v.obstacle (.noOrder kind.typeName)
  | .mapping entries => do v.writeMembers v.writePairs (← v.entryTexts entries)
  | .list items => do v.writeMembers v.writeItems (← v.itemTexts items)
  | .tuple items => do v.writeMembers v.writeItems (← v.itemTexts items)
  | .scalar s => do return some (v.writeScalar (← writable s.spelling?))
  | .member value => do return some (v.writeScalar (← writable (Scalar.memberSpelling? value)))

/-- Expands a variable on its own. -/
def expand (v : Variable) (value : Value) : Except Fault Text := do
  match ← v.render value with
  | some t => return v.operator.first ++ t
  | none => return []

end Variable

end WebLinking
