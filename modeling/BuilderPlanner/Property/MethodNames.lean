import BuilderPlanner.Property.Basic
import BuilderPlanner.Json.Value

/-!
# Names of builder methods

The methods that a builder has for a property are named after its capitalized name. Only the getter
keeps its own name.

* `MethodNames` — the fifteen names of a property;
* `Property.methodNames` — how they are made;
* `MethodNames.toList` — the names with their keys, in a fixed order.
-/

namespace BuilderPlanner

/-- The names of the builder methods of a property. -/
structure MethodNames where
  getter : String
  setter : String
  nullableSetter : String
  getBuilder : String
  add : String
  addAll : String
  addCopies : String
  put : String
  putAll : String
  remove : String
  removeAll : String
  setCount : String
  mapper : String
  mutator : String
  clear : String
  deriving DecidableEq, Repr

/-- The names of the builder methods of a property. Every property has all of them, whether or not
its type asks for them. -/
def Property.methodNames (p : Property) : MethodNames where
  getter := p.getter
  setter := "set" ++ p.capitalized
  nullableSetter := "setNullable" ++ p.capitalized
  getBuilder := "get" ++ p.capitalized ++ "Builder"
  add := "add" ++ p.capitalized
  addAll := "addAll" ++ p.capitalized
  addCopies := "addCopiesTo" ++ p.capitalized
  put := "put" ++ p.capitalized
  putAll := "putAll" ++ p.capitalized
  remove := "remove" ++ p.capitalized
  removeAll := "removeAll" ++ p.capitalized
  setCount := "setCount" ++ p.capitalized
  mapper := "map" ++ p.capitalized
  mutator := "mutate" ++ p.capitalized
  clear := "clear" ++ p.capitalized

namespace MethodNames

/-- The names with their keys. -/
def toList (n : MethodNames) : List (String × String) :=
  [("getter", n.getter), ("setter", n.setter), ("nullable_setter", n.nullableSetter),
    ("get_builder", n.getBuilder), ("add", n.add), ("add_all", n.addAll),
    ("add_copies", n.addCopies), ("put", n.put), ("put_all", n.putAll), ("remove", n.remove),
    ("remove_all", n.removeAll), ("set_count", n.setCount), ("mapper", n.mapper),
    ("mutator", n.mutator), ("clear", n.clear)]

/-- Writes the names. -/
def toJson (n : MethodNames) : Json.Value :=
  .object (n.toList.map fun (key, name) => (key, .string name))

end MethodNames

end BuilderPlanner
