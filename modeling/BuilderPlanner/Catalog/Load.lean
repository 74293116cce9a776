import BuilderPlanner.Catalog.Basic
import BuilderPlanner.Document.Text
import BuilderPlanner.Failure

/-!
# Loading documents

The types of a document are checked and put into a catalog.

* `TypeEntry.declare` — checks one described type;
* `Document.catalog` — the catalog of a document, with the root class unless it is described;
* `Preferences.check` — the name of builders must be an identifier;
* `loadDocument` — reads, checks and loads the text of a document.

Faults are found in the order of the names; within a type its own parts come before its supertypes,
these before its methods and these before its constructors. Enclosing types are looked up last.
-/

namespace BuilderPlanner

/-- Fails unless a condition holds. -/
def require (holds : Bool) (fault : ModelFault) : Except Failure Unit :=
  if holds then .ok () else .error (.model fault)

/-- Whether at most one of the modifiers says who sees a member. -/
def atMostOneAccess (modifiers : List Modifier) : Bool := modifiers.countP Modifier.isAccess ≤ 1

/-- Checks type parameters. -/
def requireTypeParams (place : Place) (params : List String) : Except Failure Unit :=
  params.forM fun p => require (isIdentifier p) (.badTypeParam place p)

/-! ### Described types -/

/-- Whether a described method has no body: in a class it is so marked, in an interface it has no
mark of a body. -/
def MethodEntry.isAbstractIn (kind : Kind) (m : MethodEntry) : Bool :=
  match kind with
  | .classKind => m.modifiers.contains .isAbstract
  | .interfaceKind =>
    !m.modifiers.contains .isDefault && !m.modifiers.contains .isStatic &&
      !m.modifiers.contains .privateAccess

/-- Checks a described method of the type `owner`. -/
def MethodEntry.declare (owner : String) (t : TypeEntry) (m : MethodEntry) :
    Except Failure Method := do
  require (isIdentifier m.name) (.badMethodName m.name owner)
  require (atMostOneAccess m.modifiers) (.manyAccess (.method m.name owner))
  requireTypeParams (.method m.name owner) m.typeParams
  let scope := t.typeParams ++ m.typeParams
  let params ← m.params.mapM (readTypeIn scope)
  let returns ← readTypeIn scope m.returns
  return {
    name := m.name
    params
    returns
    modifiers := m.modifiers
    visibility := .ofModifiers m.modifiers t.kind
    typeParams := m.typeParams
    isAbstract := m.isAbstractIn t.kind }

/-- Checks a described constructor of the type `owner`. -/
def ConstructorEntry.declare (owner : String) (t : TypeEntry) (c : ConstructorEntry) :
    Except Failure Constructor := do
  require (atMostOneAccess c.modifiers) (.manyAccess (.constructor owner))
  let params ← c.params.mapM (readTypeIn t.typeParams)
  return { params, visibility := .ofModifiers c.modifiers .classKind }

/-- Checks a described type. -/
def TypeEntry.declare (name : String) (t : TypeEntry) : Except Failure Declaration := do
  require (isQualified name) (.badTypeName name)
  require (atMostOneAccess t.modifiers) (.manyAccess (.type name))
  requireTypeParams (.type name) t.typeParams
  if let some outer := t.enclosing then
    require (isQualified outer) (.badEnclosing name outer)
  let supertypes ← t.supertypes.mapM (readTypeIn t.typeParams)
  let methods ← t.methods.mapM (MethodEntry.declare name t)
  let constructors ← t.constructors.mapM (ConstructorEntry.declare name t)
  return {
    qualifiedName := name
    kind := t.kind
    modifiers := t.modifiers
    typeParams := t.typeParams
    enclosing := t.enclosing
    supertypes
    methods
    constructors }

/-! ### Documents -/

/-- Checks that the enclosing type of a described type is described as well. -/
def requireEnclosing (types : NameMap TypeEntry) (name : String) (t : TypeEntry) :
    Except Failure Unit :=
  match t.enclosing with
  | none => .ok ()
  | some outer => require (types.contains outer) (.undeclaredEnclosing name outer)

/-- The catalog of a document. -/
def Document.catalog (d : Document) : Except Failure Catalog := do
  let declarations ← d.types.entries.mapM fun (name, t) => do
    return (name, ← t.declare name)
  d.types.entries.forM fun (name, t) => requireEnclosing d.types name t
  let types := NameMap.ofList declarations
  if types.contains JavaType.objectName then return ⟨types⟩
  else return ⟨types.insert JavaType.objectName objectDeclaration⟩

/-- Fails unless the name of builders is an identifier. -/
def Preferences.check (p : Preferences) : Except Failure Unit :=
  if isIdentifier p.builderName then .ok () else .error (.badBuilderName p.builderName)

/-- Reads the text of a document. -/
def readDocument (text : String) : Except Failure Document :=
  (Json.Decoder.ofText Document.decoder text).mapError .json

/-- A catalog with the preferences that came with it. -/
structure Loaded where
  preferences : Preferences
  catalog : Catalog

/-- Checks and loads a document. -/
def Document.load (d : Document) : Except Failure Loaded := do
  d.preferences.check
  return ⟨d.preferences, ← d.catalog⟩

/-- Reads, checks and loads the text of a document. -/
def loadDocument (text : String) : Except Failure Loaded := do
  (← readDocument text).load

end BuilderPlanner
