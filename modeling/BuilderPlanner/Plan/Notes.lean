import BuilderPlanner.Plan.Basic

/-!
# Notes on decisions

What the steps of planning have to tell about their decisions, as lines of text in the order in
which the decisions are made.

* `Catalog.surfaceNotes`, `Catalog.pickNotes`, `Catalog.creationNotes` — on the single questions;
* `Catalog.planNotes` — on a whole plan;
* `Catalog.loadNotes` — on a catalog that was loaded.
-/

namespace BuilderPlanner

/-- The name of a way to make builders, in notes. -/
def Creation.noteName : Creation → String
  | constructor => "NoArgsConstructor"
  | builderMethod => "BuilderMethod"
  | newBuilderMethod => "NewBuilderMethod"

namespace Catalog

/-- Notes on a surface: types without one, and supertypes that are not declared. -/
def surfaceNotes (c : Catalog) (t : JavaType) : List String :=
  match t.name? with
  | none => ["no method surface for non-declared type " ++ t.text]
  | some n =>
    if (c.find? n).isNone then ["no method surface for unknown type " ++ t.text]
    else (c.surface t).undeclared.map fun s => "skipping unknown supertype " ++ s.text

/-- Notes on a pick: a name that is not free, and what is taken instead. -/
def pickNotes (c : Catalog) (target returns : JavaType) (preferred : String) : List String :=
  let picked := c.pickName target returns preferred
  c.surfaceNotes target ++
    match (parameterless (c.membersOf target)).find? (·.name = preferred) with
    | some m =>
      if picked.name = preferred then []
      else
        [target.text ++ ": existing " ++ preferred ++ "() returning " ++ m.returns.text ++
            " cannot be overridden to return " ++ returns.text,
          target.text ++ ": " ++ preferred ++ "() renamed to " ++ picked.name ++ "()"]
    | none => []

/-- Notes on the making of a builder: why there is no way. -/
def creationNotes (c : Catalog) (builder : String) : List String :=
  if (c.find? builder).isNone then ["unknown builder type " ++ builder ++ "; no factory"]
  else if (c.creation? builder).isSome then []
  else [builder ++ " has no static factory and no accessible no-args constructor"]

/-- Notes on a plan for a declared value type. -/
def planForNotes (c : Catalog) (preferences : Preferences) (valueType : String)
    (d : Declaration) : List String :=
  let builder := preferences.builderOf valueType
  let type := d.builderType builder
  let plan := c.planFor preferences valueType d
  let known := (c.find? builder).isSome
  let pick (returns : JavaType) (preferred : String) : List String :=
    if known then c.pickNotes type returns preferred else []
  (if known then c.creationNotes builder else []) ++
    (builderMembers d.declaredType type).flatMap (fun (name, returns) => pick returns name) ++
    c.surfaceNotes d.declaredType ++
    (propertiesOf (c.membersOf d.declaredType) preferences.convention).flatMap
      (fun p => pick p.type p.getter) ++
    ["planned " ++ valueType ++ ": factory " ++
      (match plan.creation with
        | none => "None"
        | some way => "Some(" ++ way.noteName ++ ")") ++
      ", " ++ toString plan.warnings.length ++ " warnings"]

/-- Notes on a plan. A plan that fails has none. -/
def planNotes (c : Catalog) (preferences : Preferences) (valueType : String) : List String :=
  match preferences.check, c.find? valueType with
  | .ok (), some d => c.planForNotes preferences valueType d
  | _, _ => []

/-- Notes on a catalog that was loaded. -/
def loadNotes (c : Catalog) : List String :=
  ["loaded type model with " ++ toString c.types.size ++ " types"]

end Catalog

end BuilderPlanner
