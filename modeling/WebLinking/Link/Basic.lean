import WebLinking.Relation.Registry
import WebLinking.Template.Composition
import WebLinking.Template.Expansion

/-!
# Links

A link has a target, a relation and attributes that describe the target. The target may
be a template. Links never change: operations give new links. Two links count as equal
if they agree in everything but the letter case of the relation.
-/

namespace WebLinking

/-- An attribute that describes the target of a link. -/
inductive Attribute where
  /-- The language of the target. -/
  | hreflang
  /-- The media query that the target is made for. -/
  | media
  /-- A label for readers. -/
  | title
  /-- The media type of the target. -/
  | type
  /-- Where the deprecation of the link is described. -/
  | deprecation
  /-- The profile that the target conforms to. -/
  | profile
  /-- A second key among links of one relation. -/
  | name
  deriving DecidableEq, Repr

namespace Attribute

/-- All attributes in the order in which links write them. -/
def all : List Attribute := [.hreflang, .media, .title, .type, .deprecation, .profile, .name]

/-- How links write an attribute. -/
def key : Attribute → Text
  | .hreflang => "hreflang".toList
  | .media => "media".toList
  | .title => "title".toList
  | .type => "type".toList
  | .deprecation => "deprecation".toList
  | .profile => "profile".toList
  | .name => "name".toList

end Attribute

/-- A link to a target. -/
structure Link where
  /-- The target. -/
  href : Text
  /-- What the target is to the resource that holds the link. -/
  rel : Relation
  /-- The language of the target. -/
  hreflang : Option Text := none
  /-- The media query that the target is made for. -/
  media : Option Text := none
  /-- A label for readers. -/
  title : Option Text := none
  /-- The media type of the target. -/
  type : Option Text := none
  /-- Where the deprecation of the link is described. -/
  deprecation : Option Text := none
  /-- The profile that the target conforms to. -/
  profile : Option Text := none
  /-- A second key among links of one relation. -/
  name : Option Text := none
  deriving DecidableEq, Repr

namespace Link

/-- The value of an attribute. -/
def get (l : Link) : Attribute → Option Text
  | .hreflang => l.hreflang
  | .media => l.media
  | .title => l.title
  | .type => l.type
  | .deprecation => l.deprecation
  | .profile => l.profile
  | .name => l.name

/-- The link with another value of an attribute. -/
def withAttribute (l : Link) (a : Attribute) (value : Option Text) : Link :=
  match a with
  | .hreflang => { l with hreflang := value }
  | .media => { l with media := value }
  | .title => { l with title := value }
  | .type => { l with type := value }
  | .deprecation => { l with deprecation := value }
  | .profile => { l with profile := value }
  | .name => { l with name := value }

/-- The link with a target, a relation and the attributes that a function gives. -/
def build (href : Text) (rel : Relation) (value : Attribute → Option Text) : Link where
  href
  rel
  hreflang := value .hreflang
  media := value .media
  title := value .title
  type := value .type
  deprecation := value .deprecation
  profile := value .profile
  name := value .name

/-- The link with its relation in the form in which relations are compared. -/
def normal (l : Link) : Link := { l with rel := ⟨l.rel.normalized⟩ }

/-- Two links count as equal if they differ in the letter case of the relation only. -/
def sameAs (l m : Link) : Bool := l.normal == m.normal

/-- Checks a target. The absent value and the empty text end the check at once; octets are decoded
afterwards. -/
def checkHref : Option Value → Except Fault (Checked Text)
  | none => .ok (.refuse .missing)
  | some .null => .error (.emptyHref none)
  | some (.scalar (.text [])) => .error (.emptyHref (some []))
  | some value => .ok value.asText

/-- Checks an attribute among fields. -/
def checkAttribute (fields : Fields) (a : Attribute) : Checked (Option Text) :=
  (Checked.optional Value.asText (fields.get? a.key)).under (.field a.key)

/-- Checks a target, a relation and the attributes among fields. -/
def checkParts (href : Option Value) (rel : Option RelationInput) (fields : Fields) :
    Except Fault (Checked Link) := do
  let href ← checkHref href
  let rel := (rel.map RelationInput.check).getD (.sound Relation.self)
  Checked.release <| Link.mk <$> href.inField "href" <*> rel.inField "rel" <*>
    checkAttribute fields .hreflang <*> checkAttribute fields .media <*>
    checkAttribute fields .title <*> checkAttribute fields .type <*>
    checkAttribute fields .deprecation <*> checkAttribute fields .profile <*>
    checkAttribute fields .name

/-- Checks the fields of a link. -/
def check (fields : Fields) : Except Fault (Checked Link) :=
  checkParts (fields.get? "href".toList) ((fields.get? "rel".toList).map .raw) fields

/-- Checks a record that describes a link. -/
def checkRecord : Value → Except Fault (Checked Link)
  | .mapping fields => check fields
  | _ => .ok (.refuse (.notRecord "Link"))

/-- The link that a record describes. -/
def ofRecord (value : Value) : Except Fault Link := do (← checkRecord value).settle

/-- The link to a target under a relation. -/
def of (href : Value) (rel : RelationInput) : Except Fault Link := do
  (← checkParts (some href) (some rel) []).settle

/-- The link under another relation. -/
def withRelation (l : Link) (rel : RelationInput) : Except Fault Link := do
  let r ← rel.resolve
  return { l with rel := r }

/-- The link as one to the resource itself. -/
def withSelfRelation (l : Link) : Link := { l with rel := Relation.self }

/-- The target read as a template. -/
def template (l : Link) : Except Fault Template := Template.parse l.href

/-- The target is a template with expressions. -/
def isTemplated (l : Link) : Except Fault Bool := do return (← l.template).isTemplated

/-- The link whose target is the expansion of the target; an empty expansion is no
target. -/
def expand (l : Link) (values arguments : Bindings) : Except Fault Link := do
  let t ← l.template
  let href ← t.expand values arguments
  if href.isEmpty then throw (.emptyHref (some []))
  return { l with href }

/-- The link is under a relation. -/
def hasRelation (l : Link) (rel : RelationInput) : Except Fault Bool := do
  return l.rel.sameAs (← rel.resolve)

/-- Links never change: assigning to a field is refused. A name with an underscore in front is no
field. -/
def assign (l : Link) (field : Text) : Except Fault Link :=
  if field.head? = some '_' then .ok l
  else .error (.invalid [⟨[.field field], .frozenInstance⟩])

/-- The fields that describe a link. -/
def fields (l : Link) : Fields :=
  (.text "href".toList, .text l.href) :: (.text "rel".toList, .text l.rel.value) ::
    Attribute.all.map fun a => (.text a.key, .ofText? (l.get a))

/-- The link as a record of values. -/
def toValue (l : Link) : Value := .mapping l.fields

end Link

end WebLinking
