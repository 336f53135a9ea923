import Codebook.Schema.Table

/-!
# Catalogs of tables

A catalog holds tables in the order in which they were first met, one for each name.
-/

set_option autoImplicit false

namespace Codebook

/-- The tables that are known, in order of discovery. -/
structure Catalog where
  /-- The tables. -/
  tables : List Table := []
deriving DecidableEq, Repr

namespace Catalog

/-- The table with a given name. -/
def get? (c : Catalog) (name : String) : Option Table := c.tables.find? (·.name == name)

/-- Whether there is a table with a given name. -/
def contains (c : Catalog) (name : String) : Bool := c.tables.any (·.name == name)

/-- The number of tables. -/
def size (c : Catalog) : Nat := c.tables.length

/-- Whether there are no tables. -/
def isEmpty (c : Catalog) : Bool := c.tables.isEmpty

/-- The table with a given name, or one without columns where it is not known. -/
def getOrEmpty (c : Catalog) (name : String) : Table := (c.get? name).getD { name := name }

/-- Puts a table in the place of the one of its name, or at the end of the list. -/
def putIn (t : Table) : List Table → List Table
  | [] => [t]
  | old :: tables => if old.name = t.name then t :: tables else old :: putIn t tables

/-- The catalog with a table in the place of the one of its name, or as the last. -/
def put (c : Catalog) (t : Table) : Catalog := ⟨putIn t c.tables⟩

/-- The catalog with the table of a given name changed; it is made if it is not known. -/
def update (c : Catalog) (name : String) (f : Table → Table) : Catalog :=
  c.put (f (c.getOrEmpty name))

/-- The tables in ascending order of their names. -/
def sorted (c : Catalog) : List Table :=
  c.tables.mergeSort fun a b => decide (a.name ≤ b.name)

end Catalog

end Codebook
