import BuilderPlanner.Catalog.Creation
import BuilderPlanner.Catalog.Load
import BuilderPlanner.Catalog.Pick
import BuilderPlanner.Property.MethodNames

/-!
# Plans

A plan says all that is decided about the builder of a value type: how a new one is made, what its
members are called, and which properties it has.

* `Warning` — what a plan has to put up with, and its wording;
* `Plan` — a plan, with the parts `PlannedMember` and `PlannedProperty`;
* `Catalog.plan` — the plan for a value type.
-/

namespace BuilderPlanner

/-! ### Warnings -/

/-- What a plan has to put up with. -/
inductive Warning where
  /-- The user did not write the builder. -/
  | noBuilder (builder : String)
  /-- There is no way to make a builder. -/
  | noCreation (builder : String)
  /-- A name is taken by a method of the builder that cannot be overridden. -/
  | clash (preferred builder picked : String)
  /-- The value type has no properties. -/
  | noGetters (valueType : String)
  deriving DecidableEq, Repr

/-- The wording of a warning. -/
def Warning.message : Warning → String
  | noBuilder builder =>
    "no user builder '" ++ builder ++
      "' declared; the generated builder has no user methods to respect"
  | noCreation builder =>
    "'" ++ builder ++ "' has no builder() or newBuilder() factory and no accessible no-args " ++
      "constructor; default-value support omitted"
  | clash preferred builder picked =>
    preferred ++ "() on '" ++ builder ++ "' clashes with an existing method; generating " ++
      picked ++ "() instead"
  | noGetters valueType => "'" ++ valueType ++ "' declares no abstract getters"

/-! ### Plans -/

/-- A method of the builder itself, without parameters. -/
structure PlannedMember where
  preferred : String
  /-- The written form of the result type. -/
  returns : String
  picked : PickedName
  deriving DecidableEq, Repr

/-- A property with the names of its builder methods. -/
structure PlannedProperty where
  name : String
  capitalized : String
  getter : String
  /-- The written form of the type. -/
  type : String
  methods : MethodNames
  /-- The getter of the builder. -/
  builderGetter : PickedName
  deriving DecidableEq, Repr

/-- What is decided about the builder of a value type. -/
structure Plan where
  valueType : String
  /-- The name of the builder, if the user wrote one. -/
  builderType : Option String
  creation : Option Creation
  /-- The expression for a new builder, if there is a way to make one. -/
  newBuilder : Option String
  members : List PlannedMember
  properties : List PlannedProperty
  warnings : List String
  deriving DecidableEq, Repr

namespace Plan

/-- The property of a name. -/
def property? (p : Plan) (name : String) : Option PlannedProperty :=
  p.properties.find? (·.name = name)

/-- The member with a preferred name. -/
def member? (p : Plan) (preferred : String) : Option PlannedMember :=
  p.members.find? (·.preferred = preferred)

end Plan

/-! ### Planning -/

/-- The name of the builder of a value type. -/
def Preferences.builderOf (p : Preferences) (valueType : String) : String :=
  valueType ++ "." ++ p.builderName

/-- The builder as a type inside the value type, with the parameters of that as arguments. -/
def Declaration.builderType (d : Declaration) (builder : String) : JavaType :=
  .named builder (d.typeParams.map .var)

/-- The members of a builder itself, with their result types. -/
def builderMembers (valueType builder : JavaType) : List (String × JavaType) :=
  [("build", valueType), ("buildPartial", valueType), ("clear", builder)]

/-- Picks the name of a generated method on a builder. Without a builder of the user, every name is
free. -/
def pickOn (surface : Option (List Member)) (returns : JavaType) (preferred : String) :
    PickedName :=
  match surface with
  | some members => pickName members returns preferred
  | none => ⟨preferred, .everywhere⟩

/-- The warning about a name that was not free. -/
def clashes (builder preferred : String) (picked : PickedName) : List Warning :=
  if picked.name = preferred then [] else [.clash preferred builder picked.name]

/-- A member of the builder itself. -/
def planMember (surface : Option (List Member)) (member : String × JavaType) : PlannedMember :=
  ⟨member.1, member.2.text, pickOn surface member.2 member.1⟩

/-- A property of the builder. -/
def planProperty (surface : Option (List Member)) (p : Property) : PlannedProperty where
  name := p.name
  capitalized := p.capitalized
  getter := p.getter
  type := p.type.text
  methods := p.methodNames
  builderGetter := pickOn surface p.type p.methodNames.getter

namespace Catalog

/-- The members of the builder of the user, if there is one. -/
def builderSurface? (c : Catalog) (builder : String) (type : JavaType) : Option (List Member) :=
  if (c.find? builder).isSome then some (c.membersOf type) else none

/-- The warnings about the builder of the user. -/
def builderWarnings (c : Catalog) (builder : String) : List Warning :=
  if (c.find? builder).isNone then [.noBuilder builder]
  else if (c.creation? builder).isNone then [.noCreation builder]
  else []

/-- The plan for a declared value type. -/
def planFor (c : Catalog) (preferences : Preferences) (valueType : String) (d : Declaration) :
    Plan :=
  let builder := preferences.builderOf valueType
  let type := d.builderType builder
  let way := if (c.find? builder).isSome then c.creation? builder else none
  let surface := c.builderSurface? builder type
  let members := (builderMembers d.declaredType type).map (planMember surface)
  let properties := (propertiesOf (c.membersOf d.declaredType) preferences.convention).map
    (planProperty surface)
  let warnings := c.builderWarnings builder ++
    members.flatMap (fun m => clashes builder m.preferred m.picked) ++
    (if properties.isEmpty then [.noGetters valueType] else []) ++
    properties.flatMap (fun p => clashes builder p.getter p.builderGetter)
  { valueType
    builderType := if (c.find? builder).isSome then some builder else none
    creation := way
    newBuilder := way.map fun w => c.newBuilder w type
    members
    properties
    warnings := warnings.map Warning.message }

/-- The plan for a value type. It fails only on a bad name for builders and on a value type that is
not declared. -/
def plan (c : Catalog) (preferences : Preferences) (valueType : String) : Except Failure Plan := do
  preferences.check
  match c.find? valueType with
  | none => .error (.unknownType valueType)
  | some d => return c.planFor preferences valueType d

end Catalog

/-- The plan for a value type of a document. -/
def planDocument (text valueType : String) : Except Failure Plan := do
  let loaded ← loadDocument text
  loaded.catalog.plan loaded.preferences valueType

end BuilderPlanner
