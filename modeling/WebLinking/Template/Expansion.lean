import WebLinking.Template.Basic
import WebLinking.Template.Rendering

/-!
# Expanding a template

Values are looked up by variable name, first among the named arguments and then among
the given values; a name without a value counts as undefined. Literals stand for
themselves. An expression none of whose variables is defined writes nothing at all.
-/

namespace WebLinking

/-- Values by variable name. -/
abbrev Bindings := List (Text × Value)

/-- The value of a name among values and the arguments that take precedence over them. -/
def Bindings.effective (values arguments : Bindings) (name : Text) : Value :=
  match arguments.lookup name with
  | some value => value
  | none => (values.lookup name).getD .null

/-- Expands an expression: the operator's first mark, then what the defined variables
render, with separators between. -/
def Group.expand (g : Group) (lookup : Text → Value) : Except Fault Text := do
  let rendered ← g.vars.mapM fun v => v.render (lookup v.name)
  let parts := rendered.filterMap id
  if parts.isEmpty then return []
  else return g.operator.first ++ Text.joinWith [g.operator.separator] parts

/-- Expands a segment. -/
def Segment.expand (s : Segment) (lookup : Text → Value) : Except Fault Text :=
  match s with
  | .literal t => .ok t
  | .group g => g.expand lookup

namespace Template

/-- Expands a template with the values of its names. -/
def expandWith (t : Template) (lookup : Text → Value) : Except Fault Text := do
  let texts ← t.segments.mapM fun s => s.expand lookup
  return texts.flatten

/-- Expands a template with values and with arguments that take precedence. -/
def expand (t : Template) (values arguments : Bindings) : Except Fault Text :=
  t.expandWith (Bindings.effective values arguments)

end Template

end WebLinking
