import WebLinking.OrderedSet
import WebLinking.Template.Variable

/-!
# Templates

A template is a sequence of literal texts and groups of variables. Its text is what the
segments write one after another, and two templates count as equal if they have the same
text.
-/

namespace WebLinking

/-- One expression: an operator shared by variables. -/
structure Group where
  /-- The operator that introduces and separates the variables. -/
  operator : Operator
  /-- The variables in order. -/
  vars : List Variable
  deriving DecidableEq, Repr

/-- The text of an expression. -/
def Group.text (g : Group) : Text :=
  '{' :: g.operator.key ++ Text.joinWith [','] (g.vars.map Variable.varspec) ++ ['}']

/-- A part of a template. -/
inductive Segment where
  /-- Text that stands for itself. -/
  | literal (t : Text)
  /-- An expression. -/
  | group (g : Group)
  deriving DecidableEq, Repr

namespace Segment

/-- The text of a segment. -/
def text : Segment → Text
  | .literal t => t
  | .group g => g.text

/-- The variables of a segment. -/
def vars : Segment → List Variable
  | .literal _ => []
  | .group g => g.vars

/-- A segment is an expression. -/
def isGroup : Segment → Bool
  | .literal _ => false
  | .group _ => true

/-- A segment begins a query. -/
def beginsQuery : Segment → Bool
  | .literal t => t.contains '?'
  | .group g => g.operator == .query

end Segment

/-- A URI template. -/
structure Template where
  /-- The segments in order. -/
  segments : List Segment
  deriving DecidableEq, Repr

namespace Template

/-- The text of a template. -/
def text (t : Template) : Text := t.segments.flatMap Segment.text

/-- How messages and logs show a template. -/
def display (t : Template) : String := s!"UriTemplate({shown t.text})"

/-- Two variables go by the same name. -/
def sameName (v w : Variable) : Bool := v.name == w.name

/-- The variables of a template, each name once, where it first occurs. -/
def vars (t : Template) : List Variable :=
  OrderedSet.ofList sameName (t.segments.flatMap Segment.vars)

/-- The names of the variables. -/
def variableNames (t : Template) : List Text := t.vars.map Variable.name

/-- The variable of a name. -/
def find? (t : Template) (name : Text) : Option Variable :=
  t.vars.find? fun v => v.name == name

/-- A template has a variable of a name. -/
def hasVariable (t : Template) (name : Text) : Bool := (t.find? name).isSome

/-- A template has an expression. -/
def isTemplated (t : Template) : Bool := t.segments.any Segment.isGroup

/-- A template has a query that is begun by an expression or a literal. -/
def hasQuery (t : Template) : Bool := t.segments.any Segment.beginsQuery

/-- Two templates count as equal if they have the same text. -/
def sameAs (t u : Template) : Bool := t.text == u.text

end Template

end WebLinking
