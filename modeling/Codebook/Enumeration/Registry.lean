import Codebook.Enumeration.Group

/-!
# The registry of groups

A registry holds groups in the order in which they were first met, one for each name.  A later
sighting of a name is merged into the group.
-/

set_option autoImplicit false

namespace Codebook

/-- The groups that are known, in order of discovery. -/
structure Registry where
  /-- The groups. -/
  groups : List Group := []

namespace Registry

/-- The group with a given name. -/
def get? (r : Registry) (name : String) : Option Group := r.groups.find? (·.name == name)

/-- The number of groups. -/
def size (r : Registry) : Nat := r.groups.length

/-- Whether there are no groups. -/
def isEmpty (r : Registry) : Bool := r.groups.isEmpty

/-- Merges a sighting into the group of its name, or puts it at the end. -/
def insertInto (g : Group) : List Group → List Group
  | [] => [g]
  | old :: groups =>
    if old.name = g.name then old.merge g :: groups else old :: insertInto g groups

/-- The registry after one more sighting. -/
def insert (r : Registry) (g : Group) : Registry := ⟨insertInto g r.groups⟩

/-- The registry after some more sightings. -/
def insertAll (r : Registry) (gs : List Group) : Registry := gs.foldl insert r

end Registry

end Codebook
