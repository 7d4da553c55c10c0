import WebLinking.Checked
import WebLinking.Text.LetterCase

/-!
# Link relations

A relation says what a link's target is to the resource that holds the link. Relations
are compared without regard to letter case and keep the spelling they were made with,
less the blanks around it if it was given as a text.
-/

namespace WebLinking

/-- The relation type of a link. -/
structure Relation where
  /-- The spelling. -/
  value : Text
  deriving DecidableEq, Repr

namespace Relation

/-- The form in which relations are compared. -/
def normalized (r : Relation) : Text := r.value.lower

/-- Two relations count as equal if they differ in letter case only. -/
def sameAs (r s : Relation) : Bool := r.normalized == s.normalized

/-- The relation with a spelling; the empty spelling stands for none. -/
def ofSpelling (t : Text) : Checked Relation :=
  if t.isEmpty then .refuse .tooShort else .sound ⟨t⟩

/-- The relation that a text stands for; a blank text stands for none. -/
def ofText (t : Text) : Checked Relation := ofSpelling t.trim

/-- The relation whose spelling is given. Blanks are dropped from texts only, before anything is
decoded. -/
def check : Value → Checked Relation
  | .scalar (.text t) => ofText t
  | value => value.asText.andThen ofSpelling

/-- The relation whose spelling is given, or the fault in it. -/
def of (value : Value) : Except Fault Relation := ((check value).inField "value").settle

end Relation

/-- What a caller gives for a relation. -/
inductive RelationInput where
  /-- A relation. -/
  | made (r : Relation)
  /-- Something that a relation is to be made of. -/
  | raw (value : Value)
  deriving Repr

namespace RelationInput

/-- The relation that is given or made. -/
def resolve : RelationInput → Except Fault Relation
  | .made r => .ok r
  | .raw value => Relation.of value

/-- The relation in the field of a record, given as a relation, a text, or a record with
the spelling as its value. -/
def check : RelationInput → Checked Relation
  | .made r => .sound r
  | .raw (.scalar (.text t)) => (Relation.ofText t).inField "value"
  | .raw (.mapping fields) =>
    (Checked.required Relation.check (Fields.get? fields "value".toList)).inField "value"
  | .raw _ => .refuse (.notRecord "LinkRelation")

/-- The text of what is given, as a message names it; an enumeration member goes by its type. -/
def spelling : RelationInput → Text
  | .made r => r.value
  | .raw (.scalar (.text t)) => t
  | .raw (.unordered (.bytes t)) => Text.quotedOctets (t.flatMap String.utf8EncodeChar)
  | .raw (.unordered (.byteBuffer t)) =>
    "bytearray(".toList ++ Text.quotedOctets (t.flatMap String.utf8EncodeChar) ++ [')']
  | .raw value => value.typeName

end RelationInput

end WebLinking
