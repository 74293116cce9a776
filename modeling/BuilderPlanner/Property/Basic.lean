import BuilderPlanner.Catalog.Surface
import BuilderPlanner.Document.Basic
import BuilderPlanner.Name.Capital

/-!
# Properties

A property of a value type is what one of its abstract getters gives.

* `Property` — its name, its name with a capital, its getter and its type;
* `Member.isGetter` — which members are getters of properties;
* `beanSuffix?` — the name after `get` or `is`;
* `propertiesOf` — the properties of a surface under a convention.
-/

namespace BuilderPlanner

/-- A property of a value type. -/
structure Property where
  name : String
  /-- The name as it stands inside the names of methods. -/
  capitalized : String
  getter : String
  type : JavaType
  deriving DecidableEq, Repr

/-- A property whose capitalized name comes from its name. -/
def Property.ofName (name getter : String) (type : JavaType) : Property :=
  ⟨name, capitalize name, getter, type⟩

/-! ### Getters -/

/-- Whether a member gives a property: an abstract method of instances without parameters, with a
result, that the root class does not declare. -/
def Member.isGetter (m : Member) : Bool :=
  m.isAbstract && m.params.isEmpty && !m.isStatic && !m.returns.isVoid &&
    m.declaredIn != JavaType.objectName

/-- The text after a beginning, if it is that of a property: a capital letter and no line end. -/
def suffixAfter? (start : String) (name : List Char) : Option (List Char) :=
  if start.toList.isPrefixOf name then
    match name.drop start.length with
    | c :: rest =>
      if Unicode.isUppercaseLetter c && !rest.contains '\n' then some (c :: rest) else none
    | [] => none
  else none

/-- The name of a property in the name of its getter, after `get` or, for truth values, `is`. -/
def beanSuffix? (getter : String) (type : JavaType) : Option String :=
  match suffixAfter? "get" getter.toList with
  | some suffix => some (String.ofList suffix)
  | none =>
    if type.isBoolean then (suffixAfter? "is" getter.toList).map String.ofList else none

/-! ### Conventions -/

/-- The property of a getter whose beginning is dropped if it has one. -/
def shortProperty (m : Member) : Property :=
  match beanSuffix? m.name m.returns with
  | some suffix => ⟨decapitalize suffix, suffix, m.name, m.returns⟩
  | none => .ofName m.name m.name m.returns

/-- The property of a getter whose name is kept. -/
def plainProperty (m : Member) : Property := .ofName m.name m.name m.returns

/-- Whether a convention drops the beginnings of these getters. -/
def Convention.dropsFor (convention : Convention) (getters : List Member) : Bool :=
  match convention with
  | .plain => false
  | .prefixed => true
  | .auto => !getters.isEmpty && getters.all fun m => (beanSuffix? m.name m.returns).isSome

/-- The properties of a surface, in its order. -/
def propertiesOf (members : List Member) (convention : Convention) : List Property :=
  let getters := members.filter Member.isGetter
  getters.map (if convention.dropsFor getters then shortProperty else plainProperty)

end BuilderPlanner
