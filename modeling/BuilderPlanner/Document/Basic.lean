import BuilderPlanner.Declaration.Access
import BuilderPlanner.NameMap
import BuilderPlanner.Name.Identifier

/-!
# Documents

A document describes declared types as text: names and types are strings that are checked when a
catalog is made of it. It also carries preferences for the plans made with it.

* `Preferences` — the preferences, with their defaults;
* `MethodEntry`, `ConstructorEntry`, `TypeEntry`, `Document` — the parts of a document.
-/

namespace BuilderPlanner

/-! ### Preferences -/

/-- How names of properties come from names of getters. -/
inductive Convention where
  /-- Drop `get` and `is` if every getter begins with one of them. -/
  | auto
  /-- Drop `get` and `is` wherever a getter begins with one of them. -/
  | prefixed
  /-- Keep the names of getters. -/
  | plain
  deriving DecidableEq, Repr

/-- The words for the conventions. -/
def Convention.words : List (String × Convention) :=
  [("auto", auto), ("prefixed", prefixed), ("plain", plain)]

/-- The word for a convention. -/
def Convention.word : Convention → String := wordIn Convention.words

/-- What a plan may be told. -/
structure Preferences where
  convention : Convention := .auto
  /-- The simple name of builders nested in value types. -/
  builderName : String := "Builder"
  deriving DecidableEq, Repr

/-! ### Entries -/

/-- A method as described. -/
structure MethodEntry where
  name : String
  params : List String := []
  returns : String := "void"
  modifiers : List Modifier := []
  typeParams : List String := []
  deriving DecidableEq, Repr

/-- A constructor as described. -/
structure ConstructorEntry where
  params : List String := []
  modifiers : List Modifier := []
  deriving DecidableEq, Repr

/-- A type as described, without its name. -/
structure TypeEntry where
  kind : Kind := .classKind
  modifiers : List Modifier := []
  typeParams : List String := []
  enclosing : Option String := none
  supertypes : List String := []
  methods : List MethodEntry := []
  constructors : List ConstructorEntry := []
  deriving DecidableEq, Repr

/-- A description of types by their qualified names. -/
structure Document where
  preferences : Preferences := {}
  types : NameMap TypeEntry := .empty

end BuilderPlanner
