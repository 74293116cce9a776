import BuilderPlanner.Document.Basic
import BuilderPlanner.Json.Decoder
import BuilderPlanner.Json.Value

/-!
# Texts of documents

Documents are read from JSON texts and written as such.

* `Document.decoder`, `Preferences.decoder` and the decoders of the parts — fields that are not
  given have their defaults, and fields of other names are skipped;
* `Document.toJson`, `Preferences.toJson` and the others — write every field, in a fixed order.
-/

namespace BuilderPlanner

open Json

/-- Reads a modifier. -/
def Modifier.decoder : Decoder Modifier := Decoder.variant words

/-- Reads a list of strings. -/
def stringsDecoder : Decoder (List String) := Decoder.list Decoder.string

/-- Reads a list of modifiers. -/
def modifiersDecoder : Decoder (List Modifier) := Decoder.list Modifier.decoder

/-- Writes modifiers as their words. -/
def modifiersToJson (modifiers : List Modifier) : Value :=
  .strings (modifiers.map Modifier.word)

/-! ### Preferences -/

namespace Preferences

/-- The fields of preferences. -/
def fields : List (RecordField Preferences) :=
  [.of "getter_convention" false (Decoder.variant Convention.words)
      fun c p => { p with convention := c },
    .of "builder_name" false Decoder.string fun n p => { p with builderName := n }]

/-- Reads preferences. -/
def decoder : Decoder Preferences := Decoder.record "PlanOptions" fields {}

/-- Writes preferences. -/
def toJson (p : Preferences) : Value :=
  .object [("getter_convention", .string p.convention.word),
    ("builder_name", .string p.builderName)]

end Preferences

/-! ### Methods and constructors -/

namespace MethodEntry

/-- The fields of a method. -/
def fields : List (RecordField MethodEntry) :=
  [.of "name" true Decoder.string fun n m => { m with name := n },
    .of "params" false stringsDecoder fun ps m => { m with params := ps },
    .of "returns" false Decoder.string fun r m => { m with returns := r },
    .of "modifiers" false modifiersDecoder fun ms m => { m with modifiers := ms },
    .of "type_params" false stringsDecoder fun ps m => { m with typeParams := ps }]

/-- Reads a method. -/
def decoder : Decoder MethodEntry := Decoder.record "MethodDeclDoc" fields { name := "" }

/-- Writes a method. -/
def toJson (m : MethodEntry) : Value :=
  .object [("name", .string m.name), ("params", .strings m.params),
    ("returns", .string m.returns), ("modifiers", modifiersToJson m.modifiers),
    ("type_params", .strings m.typeParams)]

end MethodEntry

namespace ConstructorEntry

/-- The fields of a constructor. -/
def fields : List (RecordField ConstructorEntry) :=
  [.of "params" false stringsDecoder fun ps c => { c with params := ps },
    .of "modifiers" false modifiersDecoder fun ms c => { c with modifiers := ms }]

/-- Reads a constructor. -/
def decoder : Decoder ConstructorEntry := Decoder.record "ConstructorDeclDoc" fields {}

/-- Writes a constructor. -/
def toJson (c : ConstructorEntry) : Value :=
  .object [("params", .strings c.params), ("modifiers", modifiersToJson c.modifiers)]

end ConstructorEntry

/-! ### Types and documents -/

namespace TypeEntry

/-- The fields of a type. -/
def fields : List (RecordField TypeEntry) :=
  [.of "kind" false (Decoder.variant Kind.words) fun k t => { t with kind := k },
    .of "modifiers" false modifiersDecoder fun ms t => { t with modifiers := ms },
    .of "type_params" false stringsDecoder fun ps t => { t with typeParams := ps },
    .of "enclosing" false (Decoder.optional Decoder.string) fun e t => { t with enclosing := e },
    .of "supertypes" false stringsDecoder fun ss t => { t with supertypes := ss },
    .of "methods" false (Decoder.list MethodEntry.decoder) fun ms t => { t with methods := ms },
    .of "constructors" false (Decoder.list ConstructorEntry.decoder)
      fun cs t => { t with constructors := cs }]

/-- Reads a type. -/
def decoder : Decoder TypeEntry := Decoder.record "TypeDeclDoc" fields {}

/-- Writes a type. -/
def toJson (t : TypeEntry) : Value :=
  .object [("kind", .string t.kind.word), ("modifiers", modifiersToJson t.modifiers),
    ("type_params", .strings t.typeParams), ("enclosing", .optional t.enclosing),
    ("supertypes", .strings t.supertypes), ("methods", .array (t.methods.map MethodEntry.toJson)),
    ("constructors", .array (t.constructors.map ConstructorEntry.toJson))]

end TypeEntry

namespace Document

/-- The fields of a document. -/
def fields : List (RecordField Document) :=
  [.of "options" false Preferences.decoder fun p d => { d with preferences := p },
    .of "types" false (Decoder.members TypeEntry.decoder)
      fun ts d => { d with types := .ofList ts }]

/-- Reads a document. -/
def decoder : Decoder Document := Decoder.record "ModelDocument" fields {}

/-- Writes a document. -/
def toJson (d : Document) : Value :=
  .object [("options", d.preferences.toJson),
    ("types", .object (d.types.entries.map fun (name, t) => (name, t.toJson)))]

end Document

end BuilderPlanner
