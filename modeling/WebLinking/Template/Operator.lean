import WebLinking.Fault
import WebLinking.Percent

/-!
# Expression operators

The character after the opening brace of an expression decides how its variables are
written: what stands before the first of them and between two of them, whether names
are written, and which characters of a value pass unencoded.
-/

namespace WebLinking

/-- The operator of an expression. -/
inductive Operator where
  /-- No operator: values separated by commas. -/
  | simple
  /-- Values in which reserved characters pass. -/
  | reserved
  /-- A fragment, in which reserved characters pass. -/
  | fragment
  /-- Labels, each after a dot. -/
  | label
  /-- Path segments, each after a slash. -/
  | path
  /-- Path parameters, each after a semicolon and with its name. -/
  | parameter
  /-- A query, whose pairs are separated by ampersands. -/
  | query
  /-- The continuation of a query that has already begun. -/
  | continuation
  deriving DecidableEq, Repr

namespace Operator

/-- All operators. -/
def all : List Operator :=
  [.simple, .reserved, .fragment, .label, .path, .parameter, .query, .continuation]

/-- How an expression writes its operator. -/
def key : Operator → Text
  | .simple => []
  | .reserved => ['+']
  | .fragment => ['#']
  | .label => ['.']
  | .path => ['/']
  | .parameter => [';']
  | .query => ['?']
  | .continuation => ['&']

/-- What the first written variable is preceded by. -/
def first : Operator → Text
  | .simple => []
  | .reserved => []
  | .fragment => ['#']
  | .label => ['.']
  | .path => ['/']
  | .parameter => [';']
  | .query => ['?']
  | .continuation => ['&']

/-- What separates two written variables, and two members of an exploded value. -/
def separator : Operator → Char
  | .simple => ','
  | .reserved => ','
  | .fragment => ','
  | .label => '.'
  | .path => '/'
  | .parameter => ';'
  | .query => '&'
  | .continuation => '&'

/-- Values are written with the names of their variables. -/
def isNamed : Operator → Bool
  | .parameter | .query | .continuation => true
  | _ => false

/-- What follows a name whose value is empty. -/
def ifEmpty : Operator → Text
  | .query | .continuation => ['=']
  | _ => []

/-- Reserved characters and triplets of a value pass unencoded. -/
def allowsReserved : Operator → Bool
  | .reserved | .fragment => true
  | _ => false

/-- Neighbouring groups of the operator can share one expression, because its mark is its
separator. -/
def isMergeable : Operator → Bool
  | .label | .path | .parameter | .query | .continuation => true
  | _ => false

/-- Encodes a text for use in an expression of the operator. -/
def encode (operator : Operator) (t : Text) : Text :=
  if operator.allowsReserved then Percent.encodeReserved t else Percent.encodeUnreserved t

/-- The operator that is written in a given way. -/
def ofKey? (key : Text) : Option Operator := all.find? fun operator => operator.key == key

/-- The operator that is written in a given way; every other text is a fault. -/
def ofKey (key : Text) : Except Fault Operator :=
  match ofKey? key with
  | some operator => .ok operator
  | none => .error (.unknownOperator key)

/-- The characters that are kept as operators of future extensions. -/
def futureSymbols : List Char := ['=', ',', '!', '@', '|']

end Operator

end WebLinking
