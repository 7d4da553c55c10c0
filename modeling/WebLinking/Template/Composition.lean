import WebLinking.Template.Parsing

/-!
# Adding variables to a template

A variable is added at the end. It joins the last expression if that has the same
operator and joining does not change what is written, and a query variable continues a
query that has already begun. A name that the template has is not added again.
-/

namespace WebLinking.Template

/-- The expression that a template ends in. -/
def lastGroup? (t : Template) : Option Group :=
  match t.segments.getLast? with
  | some (.group g) => some g
  | _ => none

/-- A template ends in an expression that begins a query. -/
def endsInQuery (t : Template) : Bool :=
  match t.lastGroup? with
  | some g => g.operator == .query
  | none => false

/-- The form in which a variable is added: a query variable continues a query that has begun
elsewhere. -/
def adapt (t : Template) (v : Variable) : Variable :=
  if v.operator = .query && !t.endsInQuery && t.hasQuery then v.asContinued else v

/-- Puts a variable at the end, into the last expression if the two can share it. -/
def place (t : Template) (v : Variable) : Template :=
  match t.lastGroup? with
  | some g =>
    if g.operator = v.operator && g.operator.isMergeable then
      ⟨t.segments.dropLast ++ [.group { g with vars := g.vars ++ [v] }]⟩
    else ⟨t.segments ++ [.group ⟨v.operator, [v]⟩]⟩
  | none => ⟨t.segments ++ [.group ⟨v.operator, [v]⟩]⟩

/-- The template with a variable added, unless it has one of that name. -/
def withVariable (t : Template) (v : Variable) : Template :=
  if t.hasVariable v.name then t else t.place (t.adapt v)

/-- The template with variables added one after another. -/
def withVariables (t : Template) (vs : List Variable) : Template := vs.foldl withVariable t

/-- Reads a pattern and adds variables. -/
def of (pattern : Text) (vs : List Variable) : Except Fault Template := do
  let t ← parse pattern
  return t.withVariables vs

end WebLinking.Template
