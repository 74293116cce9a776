import BuilderPlanner.Json.Reading

/-!
# Decoding JSON texts

Decoders take a value as read to a value of another type, or to the first fault of its text.

* `Decoder` — the type, with decoders for strings, arrays, maps, optional values and words;
* `RecordField`, `Decoder.record` — records, written as objects or as arrays of their fields in
  order;
* `Decoder.ofText` — decodes a whole text.
-/

namespace BuilderPlanner.Json

/-- Takes a value as read to a value of another type. -/
abbrev Decoder (α : Type) := Reading → Except Fault α

namespace Decoder

variable {α σ : Type}

/-- Refuses a value because another kind of value is wanted. -/
def refuse (wanted : String) (r : Reading) : Except Fault α := .error (r.lexeme.mismatch wanted)

/-- The text of a complete string. -/
def quoted : Quoted → Except Fault String
  | .text value => .ok value
  | .unpaired fault => .error fault

/-- A string. -/
def string : Decoder String
  | .string q => quoted q
  | r => refuse "a string" r

/-- Nothing, written as `null`. -/
def unit : Decoder Unit
  | .null => .ok ()
  | r => refuse "unit" r

/-- A value or `null`. -/
def optional (decode : Decoder α) : Decoder (Option α)
  | .null => .ok none
  | r => some <$> decode r

/-- The end of an array or object that is not cut. -/
def complete : Option Stop → Except Fault Unit
  | none => .ok ()
  | some s => .error s.wanted

/-- An array. -/
def list (decode : Decoder α) : Decoder (List α)
  | .array items stop => do
    let values ← items.mapM decode
    complete stop
    return values
  | r => refuse "a sequence" r

/-- The members of an object. -/
def members (decode : Decoder α) : Decoder (List (String × α))
  | .object members stop => do
    let values ← members.mapM fun (key, r) => do
      let key ← quoted key
      let value ← decode r
      return (key, value)
    complete stop
    return values
  | r => refuse "a map" r

/-! ### Words of an enumeration -/

/-- One of the words of a table. -/
def word (table : List (String × α)) (w : String) : Except Fault α :=
  match table.lookup w with
  | some value => .ok value
  | none => .error (.unknownVariant w (table.map Prod.fst))

/-- One of the words of a table, written as a string or as the only key of an object whose value is
`null`. -/
def variant (table : List (String × α)) : Decoder α
  | .string q => quoted q >>= word table
  | .object [] stop => .error ((stop.map Stop.asOnlyKey).getD .expectedValue)
  | .object ((key, r) :: rest) stop => do
    let value ← quoted key >>= word table
    unit r
    match rest, stop with
    | [], none => return value
    | [], some s => .error s.afterOnlyMember
    | _ :: _, _ => .error .expectedValue
  | .broken s => .error s.asWord
  | _ => .error .expectedValue

end Decoder

/-! ### Records -/

/-- A field of a record that is kept in a state of type `σ`. -/
structure RecordField (σ : Type) where
  name : String
  /-- Whether the field must be given. -/
  required : Bool
  /-- Puts the value of the field into the state. -/
  put : Reading → σ → Except Fault σ

/-- A field with a decoder and a setter. -/
def RecordField.of {α σ : Type} (name : String) (required : Bool) (decode : Decoder α)
    (set : α → σ → σ) : RecordField σ :=
  ⟨name, required, fun r s => (set · s) <$> decode r⟩

namespace Decoder

variable {α σ : Type}

/-- The fields from the members of an object. Members of other names are skipped, but must be JSON.
`seen` are the names of the fields that were given already. -/
def recordMembers (fields : List (RecordField σ)) :
    List (Quoted × Reading) → List String → σ → Except Fault (List String × σ)
  | [], seen, s => .ok (seen, s)
  | (key, r) :: rest, seen, s => do
    let key ← quoted key
    match fields.find? (·.name == key) with
    | some field =>
      if seen.contains key then .error (.duplicateField key)
      else recordMembers fields rest (key :: seen) (← field.put r s)
    | none =>
      match r.stop? with
      | some stop => .error stop.ignored
      | none => recordMembers fields rest seen s

/-- The first required field that was not given. -/
def missing? (fields : List (RecordField σ)) (seen : List String) : Option String :=
  (fields.find? fun f => f.required && !seen.contains f.name).map RecordField.name

/-- The fields from the items of an array, in order. `index` items came before, for a record of
`size` fields. -/
def recordItems (title : String) (size : Nat) (stop : Option Stop) :
    List (RecordField σ) → List Reading → Nat → σ → Except Fault σ
  | field :: fields, r :: rest, index, s => do
    recordItems title size stop fields rest (index + 1) (← field.put r s)
  | field :: fields, [], index, s =>
    match stop with
    | some stop => .error stop.wanted
    | none =>
      if field.required then .error (.tooShort index title size)
      else recordItems title size stop fields [] (index + 1) s
  | [], [], _, s =>
    match stop with
    | some stop => .error stop.afterFields
    | none => .ok s
  | [], _ :: _, _, _ => .error .trailingText

/-- A record. Fields that are not given keep their value in `start`. -/
def record (title : String) (fields : List (RecordField σ)) (start : σ) : Decoder σ
  | .object members stop => do
    let (seen, s) ← recordMembers fields members [] start
    complete stop
    match missing? fields seen with
    | some name => .error (.missingField name)
    | none => return s
  | .array items stop => recordItems title fields.length stop fields items 0 start
  | r => refuse ("struct " ++ title) r

/-- Decodes a text that holds one value. -/
def ofText (decode : Decoder α) (text : String) : Except Fault α :=
  match Reading.ofText text.toList with
  | (r, surplus) => do
    let value ← decode r
    if surplus then .error .trailingText else return value

end Decoder

end BuilderPlanner.Json
