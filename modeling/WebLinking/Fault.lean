import WebLinking.Text.Quoted

/-!
# Faults

Everything that can go wrong, by cause. A violation is one reason to refuse a field of
a record, and a failure is a violation with the path to the field. Checking a record
collects failures; all other faults end the operation at once. Each cause has one
wording.
-/

namespace WebLinking

/-- A text between quotation marks, for use in a message. -/
def shown (t : Text) : String := String.ofList t.quoted

/-- A text as it stands, for use in a message. -/
def plain (t : Text) : String := String.ofList t

/-- One step on the way to a field. -/
inductive PathStep where
  /-- Into the field of a record. -/
  | field (name : Text)
  /-- To a place in a list. -/
  | index (i : Nat)
  deriving DecidableEq, Repr

/-- How messages write a step. -/
def PathStep.label : PathStep → String
  | .field name => plain name
  | .index i => toString i

/-- A rule of the library that several fields together break. -/
inductive Rule where
  /-- A variable has both an explode mark and a prefix length. -/
  | conflictingModifiers
  /-- A page count comes without a count of elements. -/
  | pagesWithoutElements
  /-- A page count differs from what elements and size make it. -/
  | inconsistentPages (pages elements size expected : Int)
  /-- A slice comes with total counts. -/
  | countedSlice
  /-- A text is no integer literal. -/
  | unreadableLiteral (t : Text)
  /-- A string of octets is no integer literal. -/
  | unreadableOctets (octets : List UInt8)
  /-- An integer literal has more digits than can be read. -/
  | longLiteral (digits : Nat)
  /-- The result of an undefined operation is taken as an integer. -/
  | undefinedInteger
  deriving DecidableEq, Repr

/-- The wording of a broken rule. -/
def Rule.message : Rule → String
  | .conflictingModifiers => "A variable cannot carry both explode and prefix modifiers"
  | .pagesWithoutElements => "total_pages requires total_elements"
  | .inconsistentPages pages elements size expected =>
    s!"total_pages={pages} is inconsistent with total_elements={elements} " ++
      s!"and size={size} (expected {expected})"
  | .countedSlice => "Slice metadata cannot carry total counts"
  | .unreadableLiteral t =>
    "invalid literal for int() with base 10: " ++ plain (t.quoted.take 200)
  | .unreadableOctets octets =>
    "invalid literal for int() with base 10: " ++
      plain ((Text.quotedOctets (octets.take 200)).take 200)
  | .longLiteral digits =>
    s!"Exceeds the limit (4300 digits) for integer string conversion: value has {digits} " ++
      "digits; use sys.set_int_max_str_digits() to increase the limit"
  | .undefinedInteger => "cannot convert float NaN to integer"

/-- A reason to refuse a field. -/
inductive Violation where
  /-- An empty text. -/
  | tooShort
  /-- No text. -/
  | notText
  /-- An integer below its lower bound. -/
  | belowBound (bound : Int)
  /-- An integer above its upper bound. -/
  | aboveBound (bound : Int)
  /-- No integer, and nothing that could be read as one. -/
  | notInteger
  /-- A text that cannot be read as an integer. -/
  | unreadableInteger
  /-- A number with a fraction in place of an integer. -/
  | fractional
  /-- An infinity or an undefined result in place of an integer. -/
  | notFinite
  /-- A number too large to be taken as an integer, or a literal too long for it. -/
  | oversized
  /-- No truth value, and nothing that could be read as one. -/
  | notBoolean
  /-- A text or number that cannot be read as a truth value. -/
  | unreadableBoolean
  /-- No value for a field that needs one. -/
  | missing
  /-- An assignment to a record that never changes. -/
  | frozenInstance
  /-- An assignment to a field that never changes. -/
  | frozenField
  /-- No list. -/
  | notList
  /-- No tuple, and nothing that could be taken as one. -/
  | notTuple
  /-- No record of a type. -/
  | notRecord (type : String)
  /-- No type. -/
  | notType
  /-- Another text than the only one allowed. -/
  | notLiteral (expected : Text)
  /-- None of the texts allowed. -/
  | notChoice (choices : List Text)
  /-- A rule that the field breaks on its own terms. -/
  | broken (rule : Rule)
  deriving DecidableEq, Repr

/-- Alternatives between quotation marks, the last one after "or". -/
def alternatives : List Text → String
  | [] => ""
  | [only] => shown only
  | [last₂, last] => shown last₂ ++ " or " ++ shown last
  | first :: rest => shown first ++ ", " ++ alternatives rest

/-- The wording of a violation, without its code. -/
def Violation.wording : Violation → String
  | .tooShort => "String should have at least 1 character"
  | .notText => "Input should be a valid string"
  | .belowBound bound => s!"Input should be greater than or equal to {bound}"
  | .aboveBound bound => s!"Input should be less than or equal to {bound}"
  | .notInteger => "Input should be a valid integer"
  | .unreadableInteger => "Input should be a valid integer, unable to parse string as an integer"
  | .fractional => "Input should be a valid integer, got a number with a fractional part"
  | .notFinite => "Input should be a finite number"
  | .oversized => "Unable to parse input string as an integer, exceeded maximum size"
  | .notBoolean => "Input should be a valid boolean"
  | .unreadableBoolean => "Input should be a valid boolean, unable to interpret input"
  | .missing => "Field required"
  | .frozenInstance => "Instance is frozen"
  | .frozenField => "Field is frozen"
  | .notList => "Input should be a valid list"
  | .notTuple => "Input should be a valid tuple"
  | .notRecord type => s!"Input should be a valid dictionary or instance of {type}"
  | .notType => "Input should be a type"
  | .notLiteral expected => s!"Input should be {shown expected}"
  | .notChoice choices => s!"Input should be {alternatives choices}"
  | .broken rule => s!"Value error, {rule.message}"

/-- The code of a violation. -/
def Violation.code : Violation → String
  | .tooShort => "string_too_short"
  | .notText => "string_type"
  | .belowBound _ => "greater_than_equal"
  | .aboveBound _ => "less_than_equal"
  | .notInteger => "int_type"
  | .unreadableInteger => "int_parsing"
  | .fractional => "int_from_float"
  | .notFinite => "finite_number"
  | .oversized => "int_parsing_size"
  | .notBoolean => "bool_type"
  | .unreadableBoolean => "bool_parsing"
  | .missing => "missing"
  | .frozenInstance => "frozen_instance"
  | .frozenField => "frozen_field"
  | .notList => "list_type"
  | .notTuple => "tuple_type"
  | .notRecord _ => "model_type"
  | .notType => "is_type"
  | .notLiteral _ => "literal_error"
  | .notChoice _ => "enum"
  | .broken _ => "value_error"

/-- A violation and the way to the field that it was found in. -/
structure Failure where
  /-- The way from the outermost record; empty for the record as a whole. -/
  path : List PathStep
  /-- Why the field is refused. -/
  violation : Violation
  deriving DecidableEq, Repr

/-- The wording of a failure: path, reason and code. -/
def Failure.message (failure : Failure) : String :=
  ".".intercalate (failure.path.map PathStep.label) ++ ": " ++ failure.violation.wording ++
    s!" [{failure.violation.code}]"

/-- Why a template cannot be read. -/
inductive TemplateFlaw where
  /-- A closing brace outside of any expression. -/
  | unmatchedClose
  /-- An opening brace without a closing one. -/
  | unclosedOpen
  /-- An opening brace inside an expression. -/
  | nestedOpen
  /-- Nothing between the braces. -/
  | emptyExpression
  /-- An operator that is kept for future extensions. -/
  | reservedOperator (symbol : Char)
  /-- Nothing after the operator. -/
  | noVariables
  /-- No number from 1 to 9999 after the colon of a variable. -/
  | badPrefix (varspec : Text)
  /-- A modifier without a name before it. -/
  | emptyName (expression : Text)
  deriving DecidableEq, Repr

/-- The wording of a template flaw. -/
def TemplateFlaw.message : TemplateFlaw → String
  | .unmatchedClose => "unmatched '\x7d'"
  | .unclosedOpen => "unclosed '\x7b'"
  | .nestedOpen => "nested '\x7b'"
  | .emptyExpression => "empty expression"
  | .reservedOperator symbol => s!"operator {shown [symbol]} is reserved"
  | .noVariables => "expression has no variables"
  | .badPrefix varspec => s!"invalid prefix modifier in {shown varspec}"
  | .emptyName expression => s!"empty variable name in {shown expression}"

/-- Why a value cannot be expanded for a variable. -/
inductive Obstacle where
  /-- The value has no order of members. -/
  | noOrder (type : Text)
  /-- A member of the value is no scalar. -/
  | nested (type : Text)
  /-- A prefix length stands at a variable whose value has members. -/
  | prefixedComposite
  deriving DecidableEq, Repr

/-- The wording of an obstacle. -/
def Obstacle.message : Obstacle → String
  | .noOrder type => s!"{plain type} values have no defined expansion order"
  | .nested type => s!"composite values must contain scalars, got {plain type}"
  | .prefixedComposite => "prefix modifier cannot be applied to a list or mapping value"

/-- Why an element of a link header cannot be read. -/
inductive HeaderFlaw where
  /-- The element does not start with a target between angle brackets. -/
  | noTarget
  /-- No relation is given, or a blank one. -/
  | noRelation
  /-- Nothing stands between the angle brackets. -/
  | emptyTarget
  deriving DecidableEq, Repr

/-- The wording of a header flaw. -/
def HeaderFlaw.message : HeaderFlaw → String
  | .noTarget => "link-value must start with <URI-Reference>"
  | .noRelation => "missing rel attribute"
  | .emptyTarget => "empty URI-Reference"

/-- Why an operation ends without a result. -/
inductive Fault where
  /-- A text is no template; the position counts code points from zero. -/
  | malformedTemplate (template : Text) (flaw : TemplateFlaw) (position : Nat)
  /-- A text is no variable name. -/
  | invalidName (name : Text)
  /-- A value cannot be expanded for the variable of a name. -/
  | unresolvable (name : Text) (obstacle : Obstacle)
  /-- A link has no target. -/
  | emptyHref (given : Option Text)
  /-- An element of a link header cannot be read. -/
  | malformedHeader (element : Text) (flaw : HeaderFlaw)
  /-- A model has no link of a relation. -/
  | linkNotFound (relation : Text)
  /-- An entity has no content. -/
  | missingPayload
  /-- Fields of a record are refused. -/
  | invalid (failures : List Failure)
  /-- An explode mark is asked for at a variable with a prefix length. -/
  | conflictingModifiers
  /-- A model type has no field of a name. -/
  | unknownField (type : String) (name : Text)
  /-- A value of a type is asked for something that the type does not have. -/
  | lacking (type name : String)
  /-- A call is given one of its arguments by place and by name. -/
  | repeatedArgument (call : String) (name : Text)
  /-- An integer has more digits than can be written. -/
  | longInteger
  /-- A content has more levels than can be shown. -/
  | deepContent
  /-- A text names no level of severity. -/
  | unknownLevel (name : Text)
  /-- A value cannot be walked through. -/
  | notIterable (type : Text)
  /-- A value is nothing that an integer could be made of. -/
  | notNumeric (type : Text)
  /-- An infinity is taken as an integer. -/
  | infiniteInteger
  /-- A text is no operator. -/
  | unknownOperator (key : Text)
  deriving DecidableEq, Repr

/-- The wording of a fault. -/
def Fault.message : Fault → String
  | .malformedTemplate template flaw position =>
    s!"Malformed URI template {shown template} at position {position}: {flaw.message}"
  | .invalidName name => s!"Invalid template variable name {shown name}"
  | .unresolvable name obstacle => s!"Cannot expand variable {shown name}: {obstacle.message}"
  | .emptyHref none => "Link href must not be empty (got None)"
  | .emptyHref (some given) => s!"Link href must not be empty (got {shown given})"
  | .malformedHeader element flaw => s!"Malformed link header {shown element}: {flaw.message}"
  | .linkNotFound relation => s!"No link with rel {shown relation} found"
  | .missingPayload => "EntityModel content must not be None"
  | .invalid failures => "; ".intercalate (failures.map Failure.message)
  | .conflictingModifiers => Rule.conflictingModifiers.message
  | .unknownField type name => s!"\"{type}\" object has no field \"{plain name}\""
  | .lacking type name => s!"'{type}' object has no attribute '{name}'"
  | .repeatedArgument call name => s!"{call}() got multiple values for argument '{plain name}'"
  | .longInteger =>
    "Exceeds the limit (4300 digits) for integer string conversion; " ++
      "use sys.set_int_max_str_digits() to increase the limit"
  | .deepContent => "Maximum serialization depth exceeded"
  | .unknownLevel name => s!"Unknown level: {shown name}"
  | .notIterable type => s!"'{plain type}' object is not iterable"
  | .notNumeric type =>
    "int() argument must be a string, a bytes-like object or a real number, " ++
      s!"not '{plain type}'"
  | .infiniteInteger => "cannot convert float infinity to integer"
  | .unknownOperator key => shown key

end WebLinking
