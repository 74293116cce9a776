import BuilderPlanner.Declaration.Basic
import BuilderPlanner.NameMap

/-!
# Catalogs

A catalog holds declarations by their qualified names.

* `Catalog` — the catalogs;
* `Catalog.find?` — the declaration of a name;
* `Catalog.enclosing?` — the declaration around the one of a name.
-/

namespace BuilderPlanner

/-- Declarations by qualified name. -/
structure Catalog where
  types : NameMap Declaration

namespace Catalog

/-- The declaration of a name. -/
def find? (c : Catalog) (name : String) : Option Declaration := c.types.find? name

/-- The declaration around the one of a name: the one that it gives as enclosing, or else the one
whose name stands before the last dot. -/
def enclosing? (c : Catalog) (name : String) : Option Declaration := do
  let d ← c.find? name
  match d.enclosing with
  | some outer => c.find? outer
  | none => c.find? (← outerName? name)

end Catalog

end BuilderPlanner
