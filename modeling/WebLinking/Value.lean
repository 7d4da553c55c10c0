import WebLinking.Number.Binary64

/-!
# Values

Everything that a caller may hand over: data to expand a template with, fields of a
record to be checked, and the payload of a representation. Scalars have a text of their
own; lists and tuples have an order of members; mappings have an order of entries. Sets
and streams are told apart by kind only, because nothing that the library does looks
inside them; a string of octets is known by the text that it encodes.
-/

namespace WebLinking

/-- A value with a text of its own. -/
inductive Scalar where
  /-- A truth value. -/
  | bool (b : Bool)
  /-- An integer of any size. -/
  | int (i : Int)
  /-- A floating-point number. -/
  | float (x : Binary64)
  /-- A text. -/
  | text (t : Text)
  deriving DecidableEq, Repr

namespace Scalar

/-- The text of a scalar, with truth values in small letters; an integer with more digits
than can be written has none. -/
def spelling? : Scalar → Option Text
  | .bool true => some "true".toList
  | .bool false => some "false".toList
  | .int i => Decimal.written? i
  | .float x => some x.text
  | .text t => some t

/-- The text of an enumeration member is that of its value, except that truth values are
capitalised. -/
def memberSpelling? : Option Scalar → Option Text
  | none => some "None".toList
  | some (.bool true) => some "True".toList
  | some (.bool false) => some "False".toList
  | some s => s.spelling?

/-- The name of a scalar's type. -/
def typeName : Scalar → Text
  | .bool _ => "bool".toList
  | .int _ => "int".toList
  | .float _ => "float".toList
  | .text _ => "str".toList

end Scalar

/-- Collections without an order of members, and strings of octets. -/
inductive Unordered where
  /-- A set that may change. -/
  | set
  /-- A set that may not change. -/
  | fixedSet
  /-- A string of octets that may not change, by the text that it encodes. -/
  | bytes (content : Text)
  /-- A string of octets that may change, by the text that it encodes. -/
  | byteBuffer (content : Text)
  deriving DecidableEq, Repr

/-- The name of the type of an unordered collection. -/
def Unordered.typeName : Unordered → Text
  | .set => "set".toList
  | .fixedSet => "frozenset".toList
  | .bytes _ => "bytes".toList
  | .byteBuffer _ => "bytearray".toList

/-- Sources that hand out their members once. -/
inductive Stream where
  /-- An iterator over a list. -/
  | listIterator
  /-- A computation that yields members. -/
  | generator
  deriving DecidableEq, Repr

/-- The name of the type of a stream. -/
def Stream.typeName : Stream → Text
  | .listIterator => "list_iterator".toList
  | .generator => "generator".toList

/-- Anything that a caller may hand over. -/
inductive Value where
  /-- The absent value. -/
  | null
  /-- A value with a text of its own. -/
  | scalar (s : Scalar)
  /-- A member of an enumeration, known by its value; `none` is the absent value. -/
  | member (value : Option Scalar)
  /-- A list. -/
  | list (items : List Value)
  /-- A tuple. -/
  | tuple (items : List Value)
  /-- A mapping as its entries, in order. -/
  | mapping (entries : List (Value × Value))
  /-- A collection without an order, or a string of bytes. -/
  | unordered (kind : Unordered)
  /-- A source that hands out its members once. -/
  | stream (kind : Stream)
  deriving Inhabited, Repr

namespace Value

/-- A text as a value. -/
def text (t : Text) : Value := .scalar (.text t)

/-- An integer as a value. -/
def int (i : Int) : Value := .scalar (.int i)

/-- A natural number as a value. -/
def nat (n : Nat) : Value := .scalar (.int n)

/-- A text or the absent value. -/
def ofText? : Option Text → Value
  | some t => text t
  | none => .null

/-- A natural number or the absent value. -/
def ofNat? : Option Nat → Value
  | some n => nat n
  | none => .null

/-- The absent value. -/
def isNull : Value → Bool
  | .null => true
  | _ => false

/-- The name of a value's type. -/
def typeName : Value → Text
  | .null => "NoneType".toList
  | .scalar s => s.typeName
  | .member _ => "Enum".toList
  | .list _ => "list".toList
  | .tuple _ => "tuple".toList
  | .mapping _ => "dict".toList
  | .unordered kind => kind.typeName
  | .stream kind => kind.typeName

/-- Whether a value has at most a given number of levels: its own one, and those of its
members. -/
def fitsIn : (levels : Nat) → Value → Bool
  | 0, _ => false
  | levels + 1, .list items => items.all (fitsIn levels)
  | levels + 1, .tuple items => items.all (fitsIn levels)
  | levels + 1, .mapping entries => entries.all fun entry => fitsIn levels entry.2
  | _ + 1, _ => true

/-- Whether a condition holds that is given as a value: the absent value, zero and what is
empty stand for no. -/
def isTrue : Value → Bool
  | .null => false
  | .scalar (.bool b) => b
  | .scalar (.int i) => i != 0
  | .scalar (.float (.finite _ significand _)) => significand != 0
  | .scalar (.text t) => !t.isEmpty
  | .list items => !items.isEmpty
  | .tuple items => !items.isEmpty
  | .mapping entries => !entries.isEmpty
  | _ => true

/-- The members of a value that can be walked through in order, the keys of a mapping among them. -/
def members? : Value → Option (List Value)
  | .list items => some items
  | .tuple items => some items
  | .scalar (.text t) => some (t.map fun c => text [c])
  | .mapping entries => some (entries.map Prod.fst)
  | _ => none

end Value

/-- The named fields of a record that is still to be checked. -/
abbrev Fields := List (Value × Value)

/-- The entry of a record under a field name. -/
def Fields.get? (fields : Fields) (name : Text) : Option Value :=
  match fields with
  | [] => none
  | (.scalar (.text key), value) :: rest => if key = name then some value else Fields.get? rest name
  | _ :: rest => Fields.get? rest name

end WebLinking
