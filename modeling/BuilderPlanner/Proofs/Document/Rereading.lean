import BuilderPlanner.Catalog.Load
import BuilderPlanner.Proofs.Json.Rereading
import BuilderPlanner.Proofs.NameMap
import BuilderPlanner.Proofs.Success

/-!
# Written documents are read as they were

The writer and the reader of documents go over the same fields by different means: the writer puts
every field in its order, the reader takes the members of an object by their names and refuses a
field that is given twice.

* `Inverts` — a decoder finds in every value, once written, this value;
* `inverts_string`, `Inverts.list`, `Inverts.members`, `inverts_variant` — the values of fields;
* `record_reading` — a record with all of its fields is read as these fields, one after the other,
  and `record_reading_of_required` — one without some that are not required;
* `Preferences.inverts`, `MethodEntry.inverts`, `ConstructorEntry.inverts`, `TypeEntry.inverts`,
  `Document.inverts` — the parts of a document, and from these the document;
* `readDocument_write`, `readDocument_reread` — documents survive a write and a read.
-/

namespace BuilderPlanner

namespace Json

namespace Decoder

variable {α σ : Type}

/-- A decoder finds in every value, once written, this value. -/
def Inverts (decode : Decoder α) (toJson : α → Value) : Prop :=
  ∀ a, decode (toJson a).reading = .ok a

/-! ### Values of fields -/

theorem inverts_string : Inverts string .string := fun _ => rfl

theorem inverts_optional_string : Inverts (optional string) .optional := by
  intro text?
  cases text? with
  | none => rfl
  | some text => rfl

theorem Inverts.list {decode : Decoder α} {toJson : α → Value} (h : Inverts decode toJson) :
    Inverts (list decode) fun items => .array (items.map toJson) := by
  intro items
  have hitems : ((items.map toJson).map Value.reading).mapM decode = .ok items := by
    rw [List.map_map]
    exact mapM_map_eq_ok h items
  rw [Value.reading, Value.readings_eq_map, Decoder.list, hitems]
  rfl

theorem Inverts.members {decode : Decoder α} {toJson : α → Value} (h : Inverts decode toJson) :
    Inverts (members decode) fun members => .object (members.map fun m => (m.1, toJson m.2)) := by
  intro members
  have hmember : ∀ m : String × α, (do
      let key ← quoted (.text m.1)
      let value ← decode (toJson m.2).reading
      return (key, value)) = .ok m := by
    intro m
    rw [h]
    rfl
  rw [Value.reading, Value.memberReadings_eq_map, List.map_map, Decoder.members,
    mapM_map_eq_ok hmember members]
  rfl

/-- Words are read where no two values of the table share one. -/
theorem inverts_variant [DecidableEq α] {table : List (String × α)}
    (h : ∀ a, table.lookup (wordIn table a) = some a) :
    Inverts (variant table) fun a => .string (wordIn table a) := by
  intro a
  show word table (wordIn table a) = .ok a
  rw [word, h]

/-! ### Records -/

/-- Puts written members into the fields of a state, one after the other. -/
def putAll : List (RecordField σ) → List (String × Value) → σ → Except Fault σ
  | field :: fields, m :: members, s => field.put m.2.reading s >>= putAll fields members
  | _, _, s => .ok s

/-- A field that is read as it was written is set. -/
theorem putAll_of {decode : Decoder α} {toJson : α → Value} (h : Inverts decode toJson)
    (name : String) (required : Bool) (set : α → σ → σ) (fields : List (RecordField σ))
    (key : String) (a : α) (members : List (String × Value)) (s : σ) :
    putAll (.of name required decode set :: fields) ((key, toJson a) :: members) s =
      putAll fields members (set a s) := by
  show ((set · s) <$> decode (toJson a).reading) >>= putAll fields members = _
  rw [h]
  rfl

/-- Members with the names of fields, none of them twice, are put into these fields. The induction
is on the fields that are left, of all fields of the record. -/
theorem recordMembers_named {all : List (RecordField σ)} (hall : (all.map RecordField.name).Nodup)
    {fields : List (RecordField σ)} {members : List (String × Value)}
    (hnames : members.map Prod.fst = fields.map RecordField.name) (hsub : fields ⊆ all)
    (hnodup : (fields.map RecordField.name).Nodup) {seen : List String}
    (hseen : ∀ field ∈ fields, field.name ∉ seen) (s : σ) :
    recordMembers all (Value.memberReadings members) seen s =
      putAll fields members s >>= fun s =>
        .ok ((fields.map RecordField.name).reverse ++ seen, s) := by
  induction fields generalizing members seen s with
  | nil =>
    rw [List.map_eq_nil_iff.1 hnames]
    rfl
  | cons field fields ih =>
    obtain ⟨⟨_, v⟩, members, rfl, rfl, hrest⟩ := List.map_eq_cons_iff.1 hnames
    obtain ⟨hfield, hnodup⟩ := List.nodup_cons.1 hnodup
    obtain ⟨hmem, hsub⟩ := List.cons_subset.1 hsub
    have hfind : all.find? (·.name == field.name) = some field := by
      rw [← (find?_key_eq_some_iff hall).2 ⟨hmem, rfl⟩]
      exact congrArg (all.find? ·) (funext fun f => beq_eq_decide f.name field.name)
    have hnew : seen.contains field.name = false := by
      simpa using hseen field List.mem_cons_self
    have hleft : ∀ f ∈ fields, f.name ∉ field.name :: seen := by
      intro f hf hname
      rcases List.mem_cons.1 hname with heq | hname
      · exact hfield (List.mem_map.2 ⟨f, hf, heq⟩)
      · exact hseen f (List.mem_cons_of_mem field hf) hname
    have hstep : recordMembers all (Value.memberReadings ((field.name, v) :: members)) seen s =
        field.put v.reading s >>=
          recordMembers all (Value.memberReadings members) (field.name :: seen) := by
      rw [Value.memberReadings, recordMembers]
      simp only [quoted, bind, Except.bind, hfind, hnew]
      rfl
    rw [hstep, putAll]
    cases field.put v.reading s with
    | error e => rfl
    | ok s' =>
      show recordMembers all _ (field.name :: seen) s' = _
      rw [ih hrest hsub hnodup hleft]
      simp [bind, Except.bind]

/-- A record with its required fields, and some of the others, is read as these fields, one after the
other. -/
theorem record_reading_of_required (title : String) {fields given : List (RecordField σ)}
    (hnodup : (fields.map RecordField.name).Nodup) (hsub : given.Sublist fields)
    (hrequired : ∀ f ∈ fields, f.required = true → f ∈ given) {members : List (String × Value)}
    (hnames : members.map Prod.fst = given.map RecordField.name) (start : σ) :
    record title fields start (Value.object members).reading = putAll given members start := by
  have hgiven : missing? fields ((given.map RecordField.name).reverse ++ []) = none := by
    rw [missing?, Option.map_eq_none_iff, List.find?_eq_none]
    intro f hf
    cases hf' : f.required with
    | false => simp
    | true =>
      have hname : f.name ∈ given.map RecordField.name :=
        List.mem_map_of_mem (hrequired f hf hf')
      simp [hname]
  rw [Value.reading, record, recordMembers_named hnodup hnames hsub.subset
    (hnodup.sublist (hsub.map RecordField.name)) fun _ _ => List.not_mem_nil]
  cases putAll given members start with
  | error e => rfl
  | ok s =>
    simp only [bind, Except.bind, complete, hgiven]
    rfl

/-- A record with all of its fields is read as these fields, one after the other. -/
theorem record_reading (title : String) {fields : List (RecordField σ)}
    (hnodup : (fields.map RecordField.name).Nodup) {members : List (String × Value)}
    (hnames : members.map Prod.fst = fields.map RecordField.name) (start : σ) :
    record title fields start (Value.object members).reading = putAll fields members start :=
  record_reading_of_required title hnodup (List.Sublist.refl fields) (fun _ h _ => h) hnames start

end Decoder

end Json

open Json Decoder

/-! ### Parts of documents -/

theorem inverts_strings : Inverts stringsDecoder .strings := inverts_string.list

theorem inverts_modifiers : Inverts modifiersDecoder modifiersToJson := by
  have hmodifier : Inverts Modifier.decoder fun m => .string m.word :=
    inverts_variant fun m => by cases m <;> rfl
  intro modifiers
  rw [modifiersToJson, Value.strings, List.map_map]
  exact hmodifier.list modifiers

theorem Preferences.inverts : Inverts decoder toJson := by
  have hconvention : Inverts (variant Convention.words) fun c => .string c.word :=
    inverts_variant fun c => by cases c <;> rfl
  intro p
  rw [decoder, toJson, record_reading "PlanOptions" (by decide) rfl, fields,
    putAll_of hconvention, putAll_of inverts_string]
  rfl

theorem MethodEntry.inverts : Inverts decoder toJson := by
  intro m
  rw [decoder, toJson, record_reading "MethodDeclDoc" (by decide) rfl, fields,
    putAll_of inverts_string, putAll_of inverts_strings, putAll_of inverts_string,
    putAll_of inverts_modifiers, putAll_of inverts_strings]
  rfl

theorem ConstructorEntry.inverts : Inverts decoder toJson := by
  intro c
  rw [decoder, toJson, record_reading "ConstructorDeclDoc" (by decide) rfl, fields,
    putAll_of inverts_strings, putAll_of inverts_modifiers]
  rfl

theorem TypeEntry.inverts : Inverts decoder toJson := by
  have hkind : Inverts (variant Kind.words) fun k => .string k.word :=
    inverts_variant fun k => by cases k <;> rfl
  intro t
  rw [decoder, toJson, record_reading "TypeDeclDoc" (by decide) rfl, fields, putAll_of hkind,
    putAll_of inverts_modifiers, putAll_of inverts_strings, putAll_of inverts_optional_string,
    putAll_of inverts_strings, putAll_of MethodEntry.inverts.list,
    putAll_of ConstructorEntry.inverts.list]
  rfl

/-! ### Documents -/

/-- A document is made of its entries again because these are in ascending order of their names. -/
theorem Document.inverts : Inverts decoder toJson := by
  intro d
  rw [decoder, toJson, record_reading "ModelDocument" (by decide) rfl, fields,
    putAll_of Preferences.inverts, putAll_of TypeEntry.inverts.members]
  show Except.ok (Document.mk d.preferences (.ofList d.types.entries)) = .ok d
  rw [NameMap.ofList_entries]

theorem readDocument_write {layout : Layout} (hlayout : layout.IsBlank) (d : Document) :
    readDocument (d.toJson.write layout) = .ok d := by
  rw [readDocument, ofText_write hlayout, Document.inverts d]
  rfl

/-- Every document is read from its text as it was written, on one line or indented. So what is
read from a text is read again from what is written of it. -/
theorem readDocument_reread : (∀ d : Document, readDocument (d.toJson.write .compact) = .ok d ∧
      readDocument (d.toJson.write .indented) = .ok d) ∧
    ∀ text, (readDocument text >>= fun d => readDocument (d.toJson.write .compact)) =
        readDocument text ∧
      (readDocument text >>= fun d => readDocument (d.toJson.write .indented)) =
        readDocument text := by
  have hread : ∀ layout : Layout, layout.IsBlank → ∀ text,
      (readDocument text >>= fun d => readDocument (d.toJson.write layout)) =
        readDocument text := by
    intro layout hlayout text
    cases readDocument text with
    | error failure => rfl
    | ok d => exact bind_eq_ok_iff.2 ⟨d, rfl, readDocument_write hlayout d⟩
  refine ⟨fun d => ?_, fun text => ?_⟩
  · exact ⟨readDocument_write Layout.isBlank_compact d,
      readDocument_write Layout.isBlank_indented d⟩
  · exact ⟨hread _ Layout.isBlank_compact text, hread _ Layout.isBlank_indented text⟩

end BuilderPlanner
