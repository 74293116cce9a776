import BuilderPlanner.Catalog.Basic
import BuilderPlanner.Json.Value

/-!
# Making builders

A new builder comes from a static method of the enclosing type or from a constructor.

* `Creation` — the three ways;
* `Catalog.creation?` — the way for a builder: `builder()` before `newBuilder()` before `new`;
* `Catalog.newBuilder` — the expression for a new builder.
-/

namespace BuilderPlanner

/-- How a new builder is made. -/
inductive Creation where
  | constructor
  | builderMethod
  | newBuilderMethod
  deriving DecidableEq, Repr

namespace Creation

/-- The words for the ways. -/
def words : List (String × Creation) :=
  [("no_args_constructor", constructor), ("builder_method", builderMethod),
    ("new_builder_method", newBuilderMethod)]

/-- The word for a way. -/
def word : Creation → String := wordIn words

/-- A description of a way. -/
def describe : Creation → String
  | constructor => "no-args constructor"
  | builderMethod => "builder() method"
  | newBuilderMethod => "newBuilder() method"

end Creation

/-- Whether a method makes values of a type, given by its written form, for callers in its package:
a static method without parameters that is not private. -/
def Method.makes (name returns : String) (m : Method) : Bool :=
  m.name == name && m.isStatic && m.visibility != .owner && m.params.isEmpty &&
    m.returns.text == returns

/-- Whether a constructor without parameters can be called from its package. -/
def Declaration.hasOpenConstructor (d : Declaration) : Bool :=
  d.constructors.any fun k => k.params.isEmpty && k.visibility != .owner

namespace Catalog

/-- The static method of the enclosing type that makes a builder. -/
def creationMethod? (c : Catalog) (name : String) (d : Declaration) : Option Creation := do
  let outer ← c.enclosing? name
  let returns := d.declaredType.text
  if outer.methods.any (Method.makes "builder" returns) then some .builderMethod
  else if outer.methods.any (Method.makes "newBuilder" returns) then some .newBuilderMethod
  else none

/-- How a builder is made, if there is a way. -/
def creation? (c : Catalog) (name : String) : Option Creation := do
  let d ← c.find? name
  match c.creationMethod? name d with
  | some way => some way
  | none => if d.hasOpenConstructor then some .constructor else none

/-- A call of a static method of the type around a builder, with the type arguments of the
builder. The type around a builder without declaration goes by the name before the last dot. -/
def staticCall (c : Catalog) (t : JavaType) (method : String) : String :=
  let name := t.name?.getD ""
  let outer := match c.enclosing? name with
    | some d => d.qualifiedName
    | none => (outerName? name).getD name
  match t.args with
  | [] => outer ++ "." ++ method ++ "()"
  | args => outer ++ ".<" ++ ", ".intercalate (args.map JavaType.text) ++ ">" ++ method ++ "()"

/-- The expression for a new builder of a type. -/
def newBuilder (c : Catalog) (way : Creation) (t : JavaType) : String :=
  match way with
  | .constructor => "new " ++ t.text ++ "()"
  | .builderMethod => c.staticCall t "builder"
  | .newBuilderMethod => c.staticCall t "newBuilder"

end Catalog

end BuilderPlanner
