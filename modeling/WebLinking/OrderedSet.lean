/-!
# Ordered sets

A list serves as a set that remembers the order of insertion: a new member goes to the
end, and a member that counts as equal to one already there is left out.
-/

namespace WebLinking.OrderedSet

variable {α : Type}

/-- Adds a member at the end unless one that counts as equal is there. -/
def insert (same : α → α → Bool) (members : List α) (x : α) : List α :=
  if members.any (same · x) then members else members ++ [x]

/-- Adds members one after another. -/
def insertAll (same : α → α → Bool) (members new : List α) : List α :=
  new.foldl (insert same) members

/-- The first of all members that count as equal, in order. -/
def ofList (same : α → α → Bool) (xs : List α) : List α := insertAll same [] xs

end WebLinking.OrderedSet
