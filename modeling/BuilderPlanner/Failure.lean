import BuilderPlanner.JavaType.Reader
import BuilderPlanner.Json.Fault

/-!
# Failures

Why a document cannot be loaded or a plan cannot be made, and the wording of it.

* `ModelFault` — what is wrong with a described type, and `Place` — where modifiers stand;
* `SystemError`, `FileFault` — why a file cannot be read;
* `Failure` — all causes, and `Failure.message` — their wording;
* `readTypeIn`, `readType` — read the texts of types, with the text as part of the cause.
-/

namespace BuilderPlanner

/-! ### Types and texts -/

/-- The wording of what a reader of types waits for. -/
def Expectation.describe : Expectation → String
  | typeName => "expected type name"
  | wordAfterDot => "expected identifier after '.'"
  | endOfArguments => "expected '>' after type arguments"
  | closingBracket => "expected ']' in array type"
  | endOfText => "unexpected token after type"
  | token => "expected a token"

/-- The wording of a fault in the text of a type. -/
def TypeFault.describe (text : String) : TypeFault → String
  | stray s =>
    "unexpected character '" ++ s.char.toString ++ "' at " ++ toString s.offset ++ " in '" ++ text ++
      "'"
  | unfit expected offset =>
    expected.describe ++ " at " ++ toString offset ++ " in '" ++ text ++ "'"

/-! ### Documents -/

/-- A place in a document that has modifiers. -/
inductive Place where
  | type (name : String)
  | method (name owner : String)
  | constructor (owner : String)
  deriving DecidableEq, Repr

/-- The wording of a place. -/
def Place.describe : Place → String
  | type name => "type '" ++ name ++ "'"
  | method name owner => "method '" ++ name ++ "' of '" ++ owner ++ "'"
  | constructor owner => "constructor of '" ++ owner ++ "'"

/-- What is wrong with a described type. -/
inductive ModelFault where
  | badTypeName (name : String)
  | badEnclosing (owner name : String)
  /-- A type parameter of a type or method that is no identifier. -/
  | badTypeParam (place : Place) (name : String)
  | badMethodName (name owner : String)
  /-- Two modifiers that both say who sees a member. -/
  | manyAccess (place : Place)
  /-- A type whose enclosing type the document does not describe. -/
  | undeclaredEnclosing (type enclosing : String)
  deriving DecidableEq, Repr

/-- The owner of type parameters as a message names it. A type goes by its name alone. -/
def Place.ofParams : Place → String
  | type name => "'" ++ name ++ "'"
  | place => place.describe

/-- The wording of a fault of a described type. -/
def ModelFault.describe : ModelFault → String
  | badTypeName name => "type name '" ++ name ++ "' is not a valid qualified name"
  | badEnclosing owner name =>
    "enclosing type of '" ++ owner ++ "' '" ++ name ++ "' is not a valid qualified name"
  | badTypeParam place name =>
    "type parameter of " ++ place.ofParams ++ ": '" ++ name ++ "' is not a valid identifier"
  | badMethodName name owner =>
    (Place.method name owner).describe ++ ": '" ++ name ++ "' is not a valid identifier"
  | manyAccess place => place.describe ++ " declares more than one access modifier"
  | undeclaredEnclosing type enclosing =>
    "type '" ++ type ++ "' names undeclared enclosing type '" ++ enclosing ++ "'"

/-! ### Files -/

/-- An error of the system, by its number and its text. -/
structure SystemError where
  number : Nat
  text : String
  deriving DecidableEq, Repr

/-- The error for a file that does not exist. -/
def SystemError.missing : SystemError := ⟨2, "No such file or directory"⟩

/-- The error for a directory that is read as a file. -/
def SystemError.directory : SystemError := ⟨21, "Is a directory"⟩

/-- Why a file cannot be read. -/
inductive FileFault where
  | system (error : SystemError)
  /-- The bytes of the file are not UTF-8. -/
  | notText
  deriving DecidableEq, Repr

/-- The wording of a fault of a file. -/
def FileFault.describe : FileFault → String
  | system error => error.text ++ " (os error " ++ toString error.number ++ ")"
  | notText => "stream did not contain valid UTF-8"

/-! ### All causes -/

/-- Why a request fails. -/
inductive Failure where
  | model (fault : ModelFault)
  | typeText (text : String) (fault : TypeFault)
  | unknownType (name : String)
  /-- The preferred name of builders is no identifier. -/
  | badBuilderName (name : String)
  | json (fault : Json.Fault)
  | file (fault : FileFault)
  deriving DecidableEq, Repr

/-- The wording of a failure. -/
def Failure.message : Failure → String
  | model fault => "model error: " ++ fault.describe
  | typeText text fault => "type syntax error: " ++ fault.describe text
  | unknownType name => "unknown type: " ++ name
  | badBuilderName name =>
    "config error: options.builder_name '" ++ name ++ "' is not a valid Java identifier"
  | json fault => "serialization error: " ++ fault.message
  | file fault => "io error: " ++ fault.describe

/-! ### Reading types -/

/-- Reads the text of a type in which the names in `scope` are variables. -/
def readTypeIn (scope : List String) (text : String) : Except Failure JavaType :=
  (JavaType.ofTextIn scope text).mapError (.typeText text)

/-- Reads the text of a type without variables. -/
def readType (text : String) : Except Failure JavaType := readTypeIn [] text

end BuilderPlanner
