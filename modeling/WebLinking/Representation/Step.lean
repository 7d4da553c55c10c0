import WebLinking.Representation.Basic

/-!
# Steps on representations

A representation is built up and asked in steps. A step that changes the representation
gives the new one; a step that only asks gives an answer; a step that fails gives a fault
and leaves the representation as it was.
-/

namespace WebLinking

/-- A test of links. -/
inductive LinkTest where
  /-- The target has expressions. -/
  | templated
  /-- The link is under a relation. -/
  | relation (rel : RelationInput)
  /-- The target starts with a text. -/
  | startsWith (start : Text)
  deriving Repr

/-- Tests a link. -/
def LinkTest.run : LinkTest → Link → Except Fault Bool
  | .templated, l => l.isTemplated
  | .relation rel, l => l.hasRelation rel
  | .startsWith start, l => .ok (start.isPrefixOf l.href)

/-- Links to be added on a condition. -/
inductive Supply where
  /-- Links at hand. -/
  | ready (links : List Link)
  /-- Links that are made only if they are asked for. -/
  | deferred (links : List Link)
  deriving Repr

/-- The links of a supply. -/
def Supply.links : Supply → List Link
  | .ready links => links
  | .deferred links => links

/-- A step on a representation. -/
inductive Step where
  /-- Adds links. -/
  | add (links : List Link)
  /-- Adds links if a condition holds. -/
  | addIf (condition : Bool) (supply : Supply)
  /-- Removes the links of a relation, or all links. -/
  | removeLinks (rel : Option RelationInput)
  /-- Removes the links that pass a test. -/
  | removeIf (test : LinkTest)
  /-- Replaces all links as they are given. -/
  | assignLinks (links : List Link)
  /-- Tries to replace another field. -/
  | assign (field : Text) (value : Value)
  /-- Asks for the links of a relation, or all links. -/
  | links (rel : Option RelationInput)
  /-- Asks for the first link of a relation. -/
  | link (rel : Option RelationInput)
  /-- Asks for the first link of a relation, which must be there. -/
  | requiredLink (rel : Option RelationInput)
  /-- Asks whether there is a link of a relation. -/
  | hasLink (rel : Option RelationInput)
  /-- Asks whether there is any link. -/
  | hasLinks
  /-- Asks for the content. -/
  | content
  /-- Asks for the place of the page. -/
  | page
  /-- Asks for the link to the next page. -/
  | nextLink
  /-- Asks for the link to the page before. -/
  | previousLink
  deriving Repr

/-- What a step answers. -/
inductive Answer where
  /-- Nothing. -/
  | nothing
  /-- How often a deferred supply was asked. -/
  | calls (count : Nat)
  /-- Links. -/
  | links (links : List Link)
  /-- At most one link. -/
  | link (link : Option Link)
  /-- A truth value. -/
  | truth (b : Bool)
  /-- A value. -/
  | value (value : Value)
  deriving Repr

/-- The answer of a step that adds a supply if a condition holds. -/
def Supply.answer (condition : Bool) : Supply → Answer
  | .ready _ => .nothing
  | .deferred _ => .calls (if condition then 1 else 0)

namespace Representation

/-- Takes a step: what it answers, and the representation after it if it may change
it. -/
def take (m : Representation) : Step → Except Fault (Answer × Option Representation)
  | .add links => .ok (.nothing, some (m.add links))
  | .addIf condition supply =>
    .ok (supply.answer condition, some (if condition then m.add supply.links else m))
  | .removeLinks rel => do return (.nothing, some (← m.removeLinks rel))
  | .removeIf test => do return (.nothing, some (← m.removeIf test.run))
  | .assignLinks links => .ok (.nothing, some { m with links })
  | .assign field value => do return (.nothing, some (← m.assign field value))
  | .links rel => do return (.links (← m.linksOf rel), none)
  | .link rel => do return (.link (← m.link? rel), none)
  | .requiredLink rel => do return (.link (some (← m.requiredLink rel)), none)
  | .hasLink rel => do return (.truth (← m.hasLink rel), none)
  | .hasLinks => .ok (.truth (!m.links.isEmpty), none)
  | .content => do return (.value (← m.content), none)
  | .page => do return (.value (((← m.page?).map Page.toValue).getD .null), none)
  | .nextLink => do return (.link (← m.nextLink?), none)
  | .previousLink => do return (.link (← m.previousLink?), none)

/-- The representation after a step; a step that fails changes nothing. -/
def after (m : Representation) (step : Step) : Representation :=
  match m.take step with
  | .ok (_, some changed) => changed
  | _ => m

end Representation

end WebLinking
