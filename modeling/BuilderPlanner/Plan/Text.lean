import BuilderPlanner.Plan.Basic

/-!
# Texts of plans

* `Plan.toJson` — a plan as a JSON value, with its parts; warnings are left out if there are none;
* `Plan.write` — its text, on one line or with indentation.
-/

namespace BuilderPlanner

open Json

namespace PlannedMember

/-- Writes a member. -/
def toJson (m : PlannedMember) : Value :=
  .object [("preferred_name", .string m.preferred), ("returns", .string m.returns),
    ("picked", m.picked.toJson)]

end PlannedMember

namespace PlannedProperty

/-- Writes a property. -/
def toJson (p : PlannedProperty) : Value :=
  .object [("name", .string p.name), ("capitalized_name", .string p.capitalized),
    ("getter", .string p.getter), ("type", .string p.type), ("methods", p.methods.toJson),
    ("builder_getter", p.builderGetter.toJson)]

end PlannedProperty

namespace Plan

/-- The member for warnings, which is left out if there are none. -/
def warningsMember (warnings : List String) : List (String × Value) :=
  if warnings.isEmpty then [] else [("warnings", .strings warnings)]

/-- Writes a plan. -/
def toJson (p : Plan) : Value :=
  .object ([("value_type", .string p.valueType), ("builder_type", .optional p.builderType),
    ("builder_factory", .optional (p.creation.map Creation.word)),
    ("new_builder_expression", .optional p.newBuilder),
    ("builder_members", .array (p.members.map PlannedMember.toJson)),
    ("properties", .array (p.properties.map PlannedProperty.toJson))] ++
    warningsMember p.warnings)

/-- The text of a plan. -/
def write (layout : Layout) (p : Plan) : String := p.toJson.write layout

end Plan

end BuilderPlanner
