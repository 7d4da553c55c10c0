import WebLinking.Pagination

/-!
# Links to routes

Links and page representations for a route whose URL has been looked up. The URL may be
a template; a templated link advertises query parameters on top of it.
-/

namespace WebLinking

namespace Route

/-- The link to a route under a relation. -/
def link (url : Text) (rel : RelationInput) : Except Fault Link := Link.of (.text url) rel

/-- The template of a route with query parameters added one after another. -/
def template (url : Text) (parameters : List Value) : Except Fault Template := do
  let t ← Template.parse url
  parameters.foldlM (fun t name => do return t.withVariable (← Pagination.queryParameter name)) t

/-- The link to a route that advertises query parameters. -/
def templatedLink (url : Text) (parameters : List Value) (rel : RelationInput) :
    Except Fault Link := do
  let t ← template url parameters
  Link.of (.text t.text) rel

/-- A page of a result at a route, with the links to other pages. -/
def paged (settings : Settings) (url : Text) (contents : Value) (page : Option Page)
    (fallback : TypeInput) : Except Fault Representation := do
  let base ← Template.parse url
  let links ← Pagination.links settings base page none
  Representation.paged contents page [links] fallback

/-- A slice of a result at a route, with the links to other slices. -/
def sliced (settings : Settings) (url : Text) (contents : Value) (page : Option Page)
    (hasNext : Option Bool) (fallback : TypeInput) : Except Fault Representation := do
  let base ← Template.parse url
  let links ← Pagination.links settings base page hasNext
  Representation.sliced contents page [links] fallback

/-- A call for something at a route. -/
inductive Call where
  /-- A link. -/
  | link
  /-- A link that advertises query parameters. -/
  | templatedLink
  /-- A page of a result. -/
  | paged
  /-- A slice of a result. -/
  | sliced
  deriving DecidableEq, Repr

namespace Call

/-- How messages name a call. -/
def label : Call → String
  | .link => "link_to"
  | .templatedLink => "templated_link_to"
  | .paged => "paged_model"
  | .sliced => "sliced_model"

/-- The arguments that a call is given by place. -/
def placed : Call → List Text
  | .link | .templatedLink => ["request", "route_name"].map String.toList
  | .paged | .sliced => ["request", "route_name", "contents", "metadata"].map String.toList

/-- The arguments that a call takes by name; all other named arguments are parameters of
the path. -/
def named : Call → List Text
  | .link | .templatedLink => ["rel"].map String.toList
  | .paged => ["fallback_type"].map String.toList
  | .sliced => ["has_next", "fallback_type"].map String.toList

/-- Tells the named arguments of a call from the parameters of the path. -/
def split {α : Type} (call : Call) (arguments : List (Text × α)) :
    Except Fault (List (Text × α) × List (Text × α)) :=
  match arguments.find? fun a => call.placed.contains a.1 with
  | some (name, _) => .error (.repeatedArgument call.label name)
  | none => .ok (arguments.partition fun a => call.named.contains a.1)

end Call

end Route

end WebLinking
