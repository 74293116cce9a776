import BuilderPlanner.Catalog.Surface
import BuilderPlanner.Failure
import BuilderPlanner.Json.Decoder
import BuilderPlanner.Json.Value

/-!
# Picking names

A generated method without parameters wants a name on a type that a user may have written methods
on. If the name is free or belongs to a method that the generated one can override, it is taken.
Otherwise the first alternative name is taken for which this holds.

* `PickedName` — a name with the visibility that the generated method must have;
* `alternativeName` — the alternatives of a name, by number;
* `Member.overridable?` — the visibility of a method that overrides a member;
* `pickName` — picks a name among members, and `Catalog.pickName` — on a type;
* `Catalog.pickTypes` — reads the types of a pick.
-/

namespace BuilderPlanner

/-! ### Picked names -/

/-- Who sees a generated method. It is never hidden from its package. -/
inductive PickedVisibility where
  | everywhere
  | package
  deriving DecidableEq, Repr

/-- The words for the visibilities. -/
def PickedVisibility.words : List (String × PickedVisibility) :=
  [("public", everywhere), ("package", package)]

/-- The word for a visibility. -/
def PickedVisibility.word : PickedVisibility → String := wordIn PickedVisibility.words

/-- A name for a generated method. -/
structure PickedName where
  name : String
  visibility : PickedVisibility
  deriving DecidableEq, Repr

namespace PickedName

/-- The name as a declaration begins: visibility in the package has no word. -/
def text (p : PickedName) : String :=
  match p.visibility with
  | .everywhere => "public " ++ p.name
  | .package => p.name

/-- The fields of a picked name. -/
def fields : List (Json.RecordField PickedName) :=
  [.of "name" true Json.Decoder.string fun n p => { p with name := n },
    .of "visibility" true (Json.Decoder.variant PickedVisibility.words)
      fun v p => { p with visibility := v }]

/-- Reads a picked name. -/
def decoder : Json.Decoder PickedName :=
  Json.Decoder.record "NameAndVisibility" fields ⟨"", .everywhere⟩

/-- Writes a picked name. -/
def toJson (p : PickedName) : Json.Value :=
  .object [("name", .string p.name), ("visibility", .string p.visibility.word)]

end PickedName

/-! ### Alternatives -/

/-- An alternative for a name. The first has no number. -/
def alternativeName (name : String) (number : Nat) : String :=
  "_" ++ name ++ "Impl" ++ if number ≤ 1 then "" else toString number

/-- The number of the first alternative that is not blocked. The alternatives are pairwise
different, so one more number than there are blocked names is enough to look through. -/
def firstOpen (name : String) (blocked : List String) : Nat :=
  ((List.range' 1 (blocked.length + 1)).find? fun n =>
    !blocked.contains (alternativeName name n)).getD 1

/-! ### Picks -/

/-- The visibility of a method with result type `returns` that overrides a member. A private member,
and one with another result type, cannot be overridden. -/
def Member.overridable? (returns : JavaType) (m : Member) : Option PickedVisibility :=
  if m.visibility = .owner ∨ m.returns ≠ returns then none
  else if m.visibility = .everywhere then some .everywhere
  else some .package

/-- The members without parameters. -/
def parameterless (members : List Member) : List Member := members.filter (·.params.isEmpty)

/-- The names of members without parameters that cannot be overridden. -/
def blockedNames (members : List Member) (returns : JavaType) : List String :=
  ((parameterless members).filter fun m => (m.overridable? returns).isNone).map Member.name

/-- Picks a name for a method without parameters among the members of a type. -/
def pickName (members : List Member) (returns : JavaType) (preferred : String) : PickedName :=
  match (parameterless members).find? (·.name = preferred) with
  | none => ⟨preferred, .everywhere⟩
  | some m =>
    match m.overridable? returns with
    | some v => ⟨preferred, v⟩
    | none =>
      ⟨alternativeName preferred (firstOpen preferred (blockedNames members returns)), .package⟩

/-- Picks a name for a method without parameters on a type. -/
def Catalog.pickName (c : Catalog) (target returns : JavaType) (preferred : String) : PickedName :=
  BuilderPlanner.pickName (c.membersOf target) returns preferred

/-- The types of a pick. The parameters of the declaration of the target are variables in both. -/
def Catalog.pickTypes (c : Catalog) (target returns : String) :
    Except Failure (JavaType × JavaType) := do
  let type ← readType target
  let scope := ((type.name?.bind c.find?).map Declaration.typeParams).getD []
  return (type.bind scope, ← readTypeIn scope returns)

end BuilderPlanner
