import WebLinking.Checked
import WebLinking.Template.Operator

/-!
# Template variables

A variable has a name, a kind that fixes its operator, and at most one of two modifiers:
an explode mark or a prefix length. Variables come from a pattern that is read or from
`Variable.check`, which takes fields as a caller wrote them; both refuse names outside the
grammar and both modifiers together.
-/

namespace WebLinking

/-- The kind of a variable, which fixes its operator. -/
inductive VariableKind where
  /-- A plain value. -/
  | simple
  /-- A value in which reserved characters pass. -/
  | reserved
  /-- A fragment. -/
  | fragment
  /-- A label after a dot. -/
  | label
  /-- A path parameter given by its name. -/
  | name
  /-- A path segment. -/
  | pathSegment
  /-- A path parameter. -/
  | pathStyleParameter
  /-- A query parameter. -/
  | requestParam
  /-- A query parameter of a query that has already begun. -/
  | requestParamContinued
  /-- An exploded plain value. -/
  | composite
  /-- An exploded query parameter. -/
  | list
  /-- An exploded query parameter of a query that has already begun. -/
  | listContinued
  deriving DecidableEq, Repr

namespace VariableKind

/-- All kinds, in the order in which messages list them. -/
def all : List VariableKind :=
  [.simple, .reserved, .fragment, .label, .name, .pathSegment, .pathStyleParameter,
    .requestParam, .requestParamContinued, .composite, .list, .listContinued]

/-- The text that names a kind. -/
def text : VariableKind → Text
  | .simple => "simple".toList
  | .reserved => "reserved".toList
  | .fragment => "fragment".toList
  | .label => "label".toList
  | .name => "name".toList
  | .pathSegment => "path_segment".toList
  | .pathStyleParameter => "path_style_parameter".toList
  | .requestParam => "request_param".toList
  | .requestParamContinued => "request_param_continued".toList
  | .composite => "composite".toList
  | .list => "list".toList
  | .listContinued => "list_continued".toList

/-- The kind that a text names. -/
def ofText? (t : Text) : Option VariableKind := all.find? fun kind => kind.text == t

/-- The operator of a kind. -/
def operator : VariableKind → Operator
  | .simple | .composite => .simple
  | .reserved => .reserved
  | .fragment => .fragment
  | .label => .label
  | .name | .pathStyleParameter => .parameter
  | .pathSegment => .path
  | .requestParam | .list => .query
  | .requestParamContinued | .listContinued => .continuation

/-- The kind stands for an exploded value of its own accord. -/
def isExploded : VariableKind → Bool
  | .composite | .list | .listContinued => true
  | _ => false

/-- A variable of the kind is expected to have a value. -/
def isRequired : VariableKind → Bool
  | .simple | .reserved | .fragment | .label | .name | .pathSegment | .pathStyleParameter => true
  | _ => false

/-- The kind of a variable in an expression of an operator; the explode mark may be part of it. -/
def ofOperator : (operator : Operator) → (explode : Bool) → VariableKind
  | .simple, true => .composite
  | .query, true => .list
  | .continuation, true => .listContinued
  | .simple, false => .simple
  | .reserved, _ => .reserved
  | .fragment, _ => .fragment
  | .label, _ => .label
  | .path, _ => .pathSegment
  | .parameter, _ => .pathStyleParameter
  | .query, false => .requestParam
  | .continuation, false => .requestParamContinued

/-- The kind for use after a query has begun. -/
def continued : VariableKind → VariableKind
  | .requestParam => .requestParamContinued
  | .list => .listContinued
  | kind => kind

/-- The kind given as a text that names one. -/
def check : Value → Checked VariableKind
  | .scalar (.text t) =>
    match ofText? t with
    | some kind => .sound kind
    | none => .refuse (.notChoice (all.map text))
  | _ => .refuse (.notChoice (all.map text))

end VariableKind

/-- A named variable of a template. -/
structure Variable where
  /-- The name under which a value is looked up. -/
  name : Text
  /-- The kind, which fixes the operator. -/
  kind : VariableKind := .simple
  /-- What the variable means, for readers only. -/
  description : Option Text := none
  /-- An explode mark for kinds that have no exploded form of their own. -/
  explode : Bool := false
  /-- The greatest number of characters of a value that are written. -/
  maxLength : Option Nat := none
  deriving DecidableEq, Repr

namespace Variable

/-- A letter or digit of the Latin basis, or an underscore. -/
def isWordChar (c : Char) : Bool := c.isAlphanum || c == '_'

/-- Continues reading a name; `fresh` says that a character of the name must come next. -/
def isNameFrom (fresh : Bool) : Text → Bool
  | [] => !fresh
  | '.' :: rest => !fresh && isNameFrom true rest
  | '%' :: a :: b :: rest => Text.isHexDigit a && Text.isHexDigit b && isNameFrom false rest
  | c :: rest => isWordChar c && isNameFrom false rest

/-- A text is a variable name. -/
def isName (t : Text) : Bool := isNameFrom true t

/-- The operator of a variable. -/
def operator (v : Variable) : Operator := v.kind.operator

/-- A variable's value is exploded, by mark or by kind. -/
def isExploded (v : Variable) : Bool := v.explode || v.kind.isExploded

/-- A variable is expected to have a value. -/
def isRequired (v : Variable) : Bool := v.kind.isRequired

/-- The explode mark and the prefix length exclude each other. -/
def hasConflict (v : Variable) : Bool := v.maxLength.isSome && v.isExploded

/-- Checks the fields of a variable. A name outside the grammar ends the check at once. -/
def check (fields : Fields) : Except Fault Variable := do
  let name := (Checked.required Value.asText (fields.get? "name".toList)).inField "name"
  match name with
  | .sound t => if !isName t then throw (.invalidName t)
  | _ => pure ()
  let kind :=
    (Checked.withDefault .simple VariableKind.check (fields.get? "type".toList)).inField "type"
  let description :=
    (Checked.optional Value.asText (fields.get? "description".toList)).inField "description"
  let explode :=
    (Checked.withDefault false Value.asBoolean (fields.get? "explode".toList)).inField "explode"
  let maxLength :=
    (Checked.optional (Value.asBetween 1 9999) (fields.get? "max_length".toList)).inField
      "max_length"
  let v ← (Variable.mk <$> name <*> kind <*> description <*> explode <*> maxLength).settle
  if v.hasConflict then throw (.invalid [⟨[], .broken .conflictingModifiers⟩])
  return v

/-- The variable with another description. -/
def withDescription (v : Variable) (description : Option Text) : Variable :=
  { v with description }

/-- The variable with an explode mark; a prefix length stands in the way. -/
def withExplode (v : Variable) : Except Fault Variable :=
  if v.maxLength.isSome then .error .conflictingModifiers else .ok { v with explode := true }

/-- The variable with another prefix length, or with none for the absent value. -/
def withMaxLength (v : Variable) (maxLength : Value) : Except Fault Variable :=
  check [
    (.text "name".toList, .text v.name),
    (.text "type".toList, .text v.kind.text),
    (.text "description".toList, .ofText? v.description),
    (.text "explode".toList, .scalar (.bool v.explode)),
    (.text "max_length".toList, maxLength)]

/-- The variable for use after a query has begun. -/
def asContinued (v : Variable) : Variable := { v with kind := v.kind.continued }

/-- Two variables count as equal if they agree in name and kind. -/
def sameAs (v w : Variable) : Bool := v.name == w.name && v.kind == w.kind

/-- A variable as an expression writes it: the name and its modifier. -/
def varspec (v : Variable) : Text :=
  if v.isExploded then v.name ++ ['*']
  else
    match v.maxLength with
    | some n => v.name ++ ':' :: Decimal.ofNat n
    | none => v.name

/-- A variable as an expression of its own. -/
def text (v : Variable) : Text := '{' :: v.operator.key ++ v.varspec ++ ['}']

/-- Variables never change: assigning to a field is refused. A name with an underscore in front is
no field. -/
def assign (v : Variable) (field : Text) : Except Fault Variable :=
  if field.head? = some '_' then .ok v
  else .error (.invalid [⟨[.field field], .frozenInstance⟩])

end Variable

end WebLinking
