import WebLinking.Representation.Step

/-!
# Representations under names

Several representations may be at work at once, each under one or more names. Names that
stand for one representation see each other's changes; a copy under a new name does not.
-/

namespace WebLinking

/-- Representations and the names for them. -/
structure Workspace where
  /-- The representations. -/
  models : List Representation := []
  /-- The names, each with the place of its representation; the latest comes first. -/
  names : List (Text × Nat) := []
  deriving Repr

namespace Workspace

/-- The place of the representation that a name stands for. -/
def place? (w : Workspace) (name : Text) : Option Nat := w.names.lookup name

/-- The representation that a name stands for. -/
def get? (w : Workspace) (name : Text) : Option Representation :=
  (w.place? name).bind (w.models[·]?)

/-- Puts a new representation under a name. -/
def put (w : Workspace) (name : Text) (m : Representation) : Workspace :=
  ⟨w.models ++ [m], (name, w.models.length) :: w.names⟩

/-- Lets a name stand for the representation that another name stands for. -/
def share (w : Workspace) (name other : Text) : Workspace :=
  match w.place? other with
  | some place => { w with names := (name, place) :: w.names }
  | none => w

/-- Replaces the representation that a name stands for, for all its names. -/
def update (w : Workspace) (name : Text) (m : Representation) : Workspace :=
  match w.place? name with
  | some place => { w with models := w.models.set place m }
  | none => w

/-- Takes a step on the representation that a name stands for. -/
def take (w : Workspace) (name : Text) (m : Representation) (step : Step) :
    Except Fault (Answer × Option Representation × Workspace) := do
  let (answer, changed) ← m.take step
  match changed with
  | some changed => return (answer, some changed, w.update name changed)
  | none => return (answer, none, w)

/-- Gives a representation a type unless it has one, under a second name, and says whether it stayed
itself. -/
def withFallbackType (w : Workspace) (name : Text) (m : Representation)
    (elementType : ElementType) (target : Text) :
    Except Fault (Bool × Representation × Workspace) := do
  match ← m.withFallbackType? elementType with
  | some typed => return (false, typed, w.put target typed)
  | none => return (true, m, w.share target name)

end Workspace

end WebLinking
