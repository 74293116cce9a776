import BuilderPlanner.Declaration.Access
import BuilderPlanner.JavaType.Basic
import BuilderPlanner.Name.Identifier

/-!
# Declarations

Declared types with their methods and constructors.

* `Method`, `Constructor`, `Declaration` — what a declaration says;
* `Declaration.declaredType` — the type as its own members see it;
* `Declaration.bindings` — the parameters of a declaration with the arguments of a use of it;
* `objectDeclaration` — the root of the class hierarchy.
-/

namespace BuilderPlanner

/-- A declared method. -/
structure Method where
  name : String
  params : List JavaType
  returns : JavaType
  modifiers : List Modifier
  visibility : Visibility
  /-- The type parameters that the method itself declares. -/
  typeParams : List String
  isAbstract : Bool
  deriving DecidableEq, Repr

/-- Whether a method belongs to the type and not to its instances. -/
def Method.isStatic (m : Method) : Bool := m.modifiers.contains .isStatic

/-- A declared constructor. -/
structure Constructor where
  params : List JavaType
  visibility : Visibility
  deriving DecidableEq, Repr

/-- A declared class or interface. -/
structure Declaration where
  qualifiedName : String
  kind : Kind
  modifiers : List Modifier
  typeParams : List String
  /-- The qualified name of the type around this one, where it is given. -/
  enclosing : Option String
  supertypes : List JavaType
  methods : List Method
  constructors : List Constructor
  deriving DecidableEq, Repr

/-! ### Type parameters -/

/-- Types for variables. A later entry of a name overrides an earlier one. -/
abbrev Bindings := List (String × JavaType)

namespace Bindings

/-- The type for a variable. -/
def lookup (b : Bindings) (name : String) : Option JavaType := List.lookup name b.reverse

/-- The bindings of all other names. -/
def without (b : Bindings) (names : List String) : Bindings :=
  b.filter fun entry => !names.contains entry.1

end Bindings

namespace Declaration

/-- The type as its own members see it: with its parameters as arguments. -/
def declaredType (d : Declaration) : JavaType := .named d.qualifiedName (d.typeParams.map .var)

/-- The parameters with the arguments of a use. A use without arguments, or with another number of
them, binds nothing. -/
def bindings (d : Declaration) (args : List JavaType) : Bindings :=
  if args.length = d.typeParams.length then d.typeParams.zip args else []

end Declaration

/-! ### The root class -/

/-- A method of the root class. -/
def objectMethod (name : String) (params : List JavaType) (returns : JavaType)
    (modifiers : List Modifier) : Method where
  name
  params
  returns
  modifiers
  visibility := .ofModifiers modifiers .classKind
  typeParams := []
  isAbstract := false

/-- The root of the class hierarchy, for catalogs that do not declare it. -/
def objectDeclaration : Declaration where
  qualifiedName := JavaType.objectName
  kind := .classKind
  modifiers := [.publicAccess]
  typeParams := []
  enclosing := none
  supertypes := []
  methods :=
    let void := JavaType.plain "void"
    [objectMethod "hashCode" [] (.plain "int") [.publicAccess],
      objectMethod "toString" [] (.plain "java.lang.String") [.publicAccess],
      objectMethod "getClass" [] (.named "java.lang.Class" [.wildcard]) [.publicAccess, .isFinal],
      objectMethod "clone" [] .object [.protectedAccess],
      objectMethod "finalize" [] void [.protectedAccess],
      objectMethod "notify" [] void [.publicAccess, .isFinal],
      objectMethod "notifyAll" [] void [.publicAccess, .isFinal],
      objectMethod "wait" [] void [.publicAccess, .isFinal],
      objectMethod "equals" [.object] (.plain "boolean") [.publicAccess]]
  constructors := [⟨[], .everywhere⟩]

end BuilderPlanner
