import WebLinking.Link.Header
import WebLinking.Page

/-!
# Representations

A representation is a payload together with links. The payload is fixed once the
representation is made; the links form an ordered set that may change. A collection
remembers the type of its elements, so that an empty one can still be described.
-/

namespace WebLinking

/-- The type of the elements of a collection, known by its name. -/
structure ElementType where
  /-- The name of the type. -/
  name : Text
  deriving DecidableEq, Repr

/-- The type of a value as an element. -/
def ElementType.of (value : Value) : ElementType := ⟨value.typeName⟩

/-- The type of the first of several elements. -/
def ElementType.ofFirst? (items : List Value) : Option ElementType := items.head?.map of

/-- What is given for the type of elements. -/
inductive TypeInput where
  /-- Nothing, or the absent value. -/
  | absent
  /-- A type. -/
  | given (elementType : ElementType)
  /-- Something that is no type. -/
  | other
  deriving DecidableEq, Repr

/-- The type of elements that is given. -/
def TypeInput.check : TypeInput → Checked (Option ElementType)
  | .absent => .sound none
  | .given elementType => .sound (some elementType)
  | .other => .refuse .notType

/-- The type of elements: that of the first one, or else what is given. -/
def TypeInput.orFirst (items : List Value) (given : TypeInput) : TypeInput :=
  match ElementType.ofFirst? items with
  | some elementType => .given elementType
  | none => given

/-- The kinds of representations. -/
inductive RepresentationKind where
  /-- Links alone. -/
  | representation
  /-- One payload value. -/
  | entity
  /-- Payload elements. -/
  | collection
  /-- A page of elements whose counts may be known. -/
  | paged
  /-- A page of elements whose counts are unknown. -/
  | sliced
  deriving DecidableEq, Repr

namespace RepresentationKind

/-- All kinds. -/
def all : List RepresentationKind := [.representation, .entity, .collection, .paged, .sliced]

/-- The text that names a kind. -/
def text : RepresentationKind → Text
  | .representation => "representation".toList
  | .entity => "entity".toList
  | .collection => "collection".toList
  | .paged => "paged".toList
  | .sliced => "sliced".toList

/-- The name of the type of representations of a kind. -/
def typeName : RepresentationKind → String
  | .representation => "RepresentationModel"
  | .entity => "EntityModel"
  | .collection => "CollectionModel"
  | .paged => "PagedModel"
  | .sliced => "SlicedModel"

end RepresentationKind

/-- What a representation carries besides its links. -/
inductive Payload where
  /-- Nothing. -/
  | bare
  /-- One value. -/
  | entity (content : Value)
  /-- Elements and their type. -/
  | collection (items : List Value) (elementType : Option ElementType)
  /-- A page of elements, their type and the place of the page. -/
  | paged (items : List Value) (elementType : Option ElementType) (page : Option Page)
  /-- A page of elements, their type and the place of the page, without counts. -/
  | sliced (items : List Value) (elementType : Option ElementType) (page : Option Page)
  deriving Repr

namespace Payload

/-- The kind of representations that carry a payload. -/
def kind : Payload → RepresentationKind
  | .bare => .representation
  | .entity _ => .entity
  | .collection .. => .collection
  | .paged .. => .paged
  | .sliced .. => .sliced

/-- The elements of a collection. -/
def items? : Payload → Option (List Value)
  | .bare | .entity _ => none
  | .collection items _ | .paged items _ _ | .sliced items _ _ => some items

/-- The values that a payload carries. -/
def values : Payload → List Value
  | .bare => []
  | .entity content => [content]
  | .collection items _ | .paged items _ _ | .sliced items _ _ => items

/-- A payload is a page of elements. -/
def isPage : Payload → Bool
  | .paged .. | .sliced .. => true
  | _ => false

/-- The content as one value. -/
def content : Payload → Value
  | .bare => .null
  | .entity content => content
  | .collection items _ | .paged items _ _ | .sliced items _ _ => .list items

/-- The type of the elements of a collection. -/
def elementType? : Payload → Option ElementType
  | .bare | .entity _ => none
  | .collection _ elementType | .paged _ elementType _ | .sliced _ elementType _ => elementType

/-- The place of a page. -/
def page? : Payload → Option Page
  | .paged _ _ page | .sliced _ _ page => page
  | _ => none

/-- The payload with another type for its elements. -/
def withElementType (elementType : Option ElementType) : Payload → Payload
  | .collection items _ => .collection items elementType
  | .paged items _ page => .paged items elementType page
  | .sliced items _ page => .sliced items elementType page
  | payload => payload

/-- The fields that a payload adds to a record of the representation. -/
def fields : Payload → Fields
  | .bare => []
  | .entity content => [(.text "content".toList, content)]
  | .collection items _ => [(.text "content".toList, .list items)]
  | .paged items _ page | .sliced items _ page =>
    [(.text "content".toList, .list items),
      (.text "metadata".toList, (page.map Page.toValue).getD .null)]

/-- The names of the fields that never change once the payload is made. -/
def frozenFields : Payload → List Text
  | .bare => []
  | .entity _ => ["content"].map String.toList
  | .collection .. => ["content", "element_type"].map String.toList
  | .paged .. | .sliced .. => ["content", "element_type", "metadata"].map String.toList

end Payload

/-- A payload together with links. -/
structure Representation where
  /-- What the representation is about. -/
  payload : Payload
  /-- The links in order of insertion, no two of them equal. -/
  links : List Link
  /-- What the representation says of its kind; it is made to say the kind of its payload. -/
  label : Value := .text payload.kind.text
  deriving Repr

namespace Representation

/-- The kind of a representation. -/
def kind (m : Representation) : RepresentationKind := m.payload.kind

/-- The representation with links added that are not there yet. -/
def add (m : Representation) (links : List Link) : Representation :=
  { m with links := OrderedSet.insertAll Link.sameAs m.links links }

/-- A payload with the links of several arguments, added one argument after another. -/
def assemble (payload : Payload) (links : List (List Link)) : Representation :=
  links.foldl add { payload, links := [] }

/-- A representation of links alone. -/
def ofLinks (links : List Link) : Representation :=
  { payload := .bare, links := OrderedSet.ofList Link.sameAs links }

/-- A representation of one value, which must not be absent. -/
def entity (content : Value) (links : List (List Link)) : Except Fault Representation :=
  if content.isNull then .error .missingPayload else .ok (assemble (.entity content) links)

/-- The members of a value in order. -/
def membersOf (contents : Value) : Except Fault (List Value) :=
  match contents.members? with
  | some items => .ok items
  | none => .error (.notIterable contents.typeName)

/-- The type of elements: that of the first one, or else what is given to fall back on. -/
def checkType (items : List Value) (fallback : TypeInput) : Checked (Option ElementType) :=
  (fallback.orFirst items).check.inField "element_type"

/-- A representation of the members of a value. -/
def collection (contents : Value) (links : List (List Link)) (fallback : TypeInput) :
    Except Fault Representation := do
  let items ← membersOf contents
  let elementType ← (checkType items fallback).settle
  return assemble (.collection items elementType) links

/-- A representation of one page of a result. -/
def paged (contents : Value) (page : Option Page) (links : List (List Link))
    (fallback : TypeInput) : Except Fault Representation := do
  let items ← membersOf contents
  let elementType ← (checkType items fallback).settle
  return assemble (.paged items elementType page) links

/-- The place of a slice, which comes without counts. -/
def checkSlice (page : Option Page) : Checked (Option Page) :=
  if (page.map Page.isCounted).getD false then .refuse (.broken .countedSlice) else .sound page

/-- A representation of one slice of a result. -/
def sliced (contents : Value) (page : Option Page) (links : List (List Link))
    (fallback : TypeInput) : Except Fault Representation := do
  let items ← membersOf contents
  let payload ← (Payload.sliced items <$> checkType items fallback <*>
    (checkSlice page).inField "metadata").settle
  return assemble payload links

/-- The fault of asking a representation for what those of its kind do not have. -/
def lacks {α : Type} (m : Representation) (name : String) : Except Fault α :=
  .error (.lacking m.kind.typeName name)

/-- The representation with a type for its elements, or `none` if it has one already. -/
def withFallbackType? (m : Representation) (elementType : ElementType) :
    Except Fault (Option Representation) :=
  if m.payload.items?.isNone then m.lacks "with_fallback_type"
  else if m.payload.elementType?.isSome then .ok none
  else .ok (some { m with payload := m.payload.withElementType (some elementType) })

/-- The links of a relation, or all links. -/
def linksOf (m : Representation) : (rel : Option RelationInput) → Except Fault (List Link)
  | none => .ok m.links
  | some rel => do
    let r ← rel.resolve
    return m.links.filter fun l => l.rel.sameAs r

/-- The first link of a relation. -/
def link? (m : Representation) (rel : Option RelationInput) : Except Fault (Option Link) := do
  return (← m.linksOf rel).head?

/-- The first link of a relation, which must be there. -/
def requiredLink (m : Representation) (rel : Option RelationInput) : Except Fault Link := do
  match ← m.link? rel with
  | some l => return l
  | none => throw (.linkNotFound ((rel.map RelationInput.spelling).getD "None".toList))

/-- The representation has a link of a relation. -/
def hasLink (m : Representation) (rel : Option RelationInput) : Except Fault Bool := do
  return (← m.link? rel).isSome

/-- The representation without the links of a relation, or without any links. -/
def removeLinks (m : Representation) : (rel : Option RelationInput) → Except Fault Representation
  | none => .ok { m with links := [] }
  | some rel => do
    let r ← rel.resolve
    return { m with links := m.links.filter fun l => !l.rel.sameAs r }

/-- The links that do not pass a test which may fail. -/
def rejecting (test : Link → Except Fault Bool) : List Link → Except Fault (List Link)
  | [] => .ok []
  | l :: rest => do
    let passes ← test l
    let kept ← rejecting test rest
    return if passes then kept else l :: kept

/-- The representation without the links that pass a test. If the test fails on any link,
nothing is removed. -/
def removeIf (m : Representation) (test : Link → Except Fault Bool) :
    Except Fault Representation := do
  let kept ← rejecting test m.links
  return { m with links := kept }

/-- The content. -/
def content (m : Representation) : Except Fault Value :=
  match m.payload with
  | .bare => m.lacks "get_content"
  | payload => .ok payload.content

/-- The place of the page. -/
def page? (m : Representation) : Except Fault (Option Page) :=
  if m.payload.isPage then .ok m.payload.page? else m.lacks "get_metadata"

/-- The link to the page after this one. -/
def nextLink? (m : Representation) : Except Fault (Option Link) :=
  if m.payload.isPage then m.link? (some (.made Relation.next)) else m.lacks "get_next_link"

/-- The link to the page before this one. -/
def previousLink? (m : Representation) : Except Fault (Option Link) :=
  if m.payload.isPage then m.link? (some (.made Relation.prev)) else m.lacks "get_previous_link"

/-- The representation after an assignment to a field other than the links. Only its kind may be
replaced. -/
def assign (m : Representation) (field : Text) (value : Value) : Except Fault Representation :=
  if field.head? = some '_' then .ok m
  else if field = "kind".toList then .ok { m with label := value }
  else if m.payload.frozenFields.contains field then
    .error (.invalid [⟨[.field field], .frozenField⟩])
  else .error (.unknownField m.kind.typeName field)

/-- The fields that describe a representation; the type of its elements is not among
them. -/
def fields (m : Representation) : Fields :=
  (.text "kind".toList, m.label) ::
    (.text "links".toList, .list (m.links.map Link.toValue)) :: m.payload.fields

/-- The greatest number of levels that a value in a record may have. -/
def levelLimit : Nat := 255

/-- Whether a representation can be shown: its values must not have too many levels. -/
def isShowable (m : Representation) : Bool :=
  m.label.fitsIn levelLimit && m.payload.values.all (Value.fitsIn levelLimit)

/-- The representation as a record of values. -/
def toValue (m : Representation) : Except Fault Value :=
  if m.isShowable then .ok (.mapping m.fields) else .error .deepContent

end Representation

end WebLinking
