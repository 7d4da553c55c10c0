import WebLinking.Representation.Basic
import WebLinking.Settings

/-!
# Page links

The links from one page of a result to the others. All of them expand one template, to
which the parameters for page number and page size are added; the settings name these
parameters and say whether page numbers in links count from zero or one.
-/

namespace WebLinking

namespace Pagination

/-- The variable of a query parameter. -/
def queryParameter (name : Value) : Except Fault Variable :=
  Variable.check [
    (.text "name".toList, name),
    (.text "type".toList, .text VariableKind.requestParam.text)]

/-- The template of page links: a base with the parameters for page number and size. -/
def pageTemplate (settings : Settings) (base : Template) : Except Fault Template := do
  let page ← queryParameter (.text settings.pageParameter)
  let size ← queryParameter (.text settings.sizeParameter)
  return base.withVariables [page, size]

/-- The values for the link to a page. Where both parameters have one name, the size is
its value. -/
def bindings (settings : Settings) (number size : Nat) : Bindings :=
  [(settings.sizeParameter, .nat size),
    (settings.pageParameter, .nat (if settings.oneIndexed then number + 1 else number))]

/-- The link to a page under a relation. -/
def pageLink (settings : Settings) (t : Template) (size : Nat) (target : Relation × Nat) :
    Except Fault Link := do
  let href ← t.expand (bindings settings target.2 size) []
  Link.of (.text href) (.made target.1)

/-- The pages that a page links to, in order; the last one only if the count of pages is known. -/
def targets (page : Page) (hasNext : Bool) : List (Relation × Nat) :=
  let navigable := page.hasPrevious || hasNext
  let lastPage := page.totalPages.getD 0
  (if navigable then [(Relation.first, 0)] else []) ++
    (if page.hasPrevious then [(Relation.prev, page.number - 1)] else []) ++
    [(Relation.self, page.number)] ++
    (if hasNext then [(Relation.next, page.number + 1)] else []) ++
    (if navigable && lastPage != 0 then [(Relation.last, lastPage - 1)] else [])

/-- The page whose links are asked for, or the fault of asking the absent value for one. -/
def present (page : Option Page) (hasNext : Option Bool) : Except Fault Page :=
  match page with
  | some page => .ok page
  | none => .error (.lacking "NoneType" (if hasNext.isSome then "has_previous" else "has_next"))

/-- The links of a page. An unknown count means that there is no next page, unless that is said. -/
def links (settings : Settings) (base : Template) (page : Option Page) (hasNext : Option Bool) :
    Except Fault (List Link) := do
  let t ← pageTemplate settings base
  let page ← present page hasNext
  let next := hasNext.getD (page.hasNext.getD false)
  (targets page next).mapM (pageLink settings t page.size)

end Pagination

end WebLinking
