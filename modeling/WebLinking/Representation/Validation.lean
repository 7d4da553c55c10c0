import WebLinking.Representation.Basic

/-!
# Reading representations back

A representation may be made from the record of values that describes it. The type of
its elements, if it is not given, is taken from the first element before anything is
checked. Then the fields are checked in the order kind, links, content, element type,
place of the page.
-/

namespace WebLinking

namespace Representation

/-- Checks that the kind, if it is given, is the expected one. -/
def checkKind (kind : RepresentationKind) : Option Value → Checked Unit
  | none => .sound ()
  | some (.scalar (.text t)) =>
    if t = kind.text then .sound () else .refuse (.notLiteral kind.text)
  | some _ => .refuse (.notLiteral kind.text)

/-- Checks the links of a list from a place on. -/
def checkLinksFrom (place : Nat) : List Value → Except Fault (Checked (List Link))
  | [] => .ok (.sound [])
  | value :: rest => do
    let l ← Link.checkRecord value
    let more ← checkLinksFrom (place + 1) rest
    return List.cons <$> l.under (.index place) <*> more

/-- Checks the links of a representation; of equal links the first is kept. -/
def checkLinks : Option Value → Except Fault (Checked (List Link))
  | none => .ok (.sound [])
  | some (.list values) | some (.tuple values) => do
    return (← checkLinksFrom 0 values).map (OrderedSet.ofList Link.sameAs)
  | some _ => .ok (.refuse .notList)

/-- Checks the content of an entity. The absent value ends the check at once. -/
def checkContent : Option Value → Except Fault (Checked Value)
  | none => .ok (.refuse .missing)
  | some .null => .error .missingPayload
  | some content => .ok (.sound content)

/-- Checks the elements of a collection. -/
def checkItems : Option Value → Checked (List Value)
  | none => .sound []
  | some (.list items) | some (.tuple items) => .sound items
  | some _ => .refuse .notTuple

/-- Checks the place of a page. -/
def checkPage : Option Value → Except Fault (Checked (Option Page))
  | none | some .null => .ok (.sound none)
  | some (.mapping fields) => do return (← Page.check fields).map some
  | some _ => .ok (.refuse (.notRecord "PageMetadata"))

/-- The elements and their type, which the first element gives if it is not given. -/
def inferType (content : Option Value) (elementType : TypeInput) :
    Except Fault (Option Value × TypeInput) :=
  match elementType, content with
  | .absent, some .null => .ok (content, elementType)
  | .absent, some value => do
    let items ← membersOf value
    return (some (.tuple items), elementType.orFirst items)
  | _, _ => .ok (content, elementType)

/-- The representation that fields describe. -/
def ofFields (kind : RepresentationKind) (fields : Fields) (elementType : TypeInput) :
    Except Fault Representation := do
  let field (name : String) := fields.get? name.toList
  let checkedKind := (checkKind kind (field "kind")).inField "kind"
  let build (payload : Checked Payload) (links : Checked (List Link)) :=
    ((fun _ links payload => { payload, links }) <$> checkedKind <*> links.inField "links" <*>
      payload).settle
  match kind with
  | .representation => do
    let links ← checkLinks (field "links")
    build (.sound .bare) links
  | .entity => do
    let links ← checkLinks (field "links")
    let content ← checkContent (field "content")
    build (.entity <$> content.inField "content") links
  | .collection => do
    let (content, elementType) ← inferType (field "content") elementType
    let links ← checkLinks (field "links")
    build (.collection <$> (checkItems content).inField "content" <*>
      elementType.check.inField "element_type") links
  | .paged => do
    let (content, elementType) ← inferType (field "content") elementType
    let links ← checkLinks (field "links")
    let page ← checkPage (field "metadata")
    build (.paged <$> (checkItems content).inField "content" <*>
      elementType.check.inField "element_type" <*> page.inField "metadata") links
  | .sliced => do
    let (content, elementType) ← inferType (field "content") elementType
    let links ← checkLinks (field "links")
    let page ← checkPage (field "metadata")
    build (.sliced <$> (checkItems content).inField "content" <*>
      elementType.check.inField "element_type" <*>
      (page.andThen checkSlice).inField "metadata") links

/-- The representation that a record describes. -/
def ofRecord (kind : RepresentationKind) (value : Value) (elementType : TypeInput) :
    Except Fault Representation :=
  match value with
  | .mapping fields => ofFields kind fields elementType
  | _ => .error (.invalid [⟨[], .notRecord kind.typeName⟩])

end Representation

end WebLinking
