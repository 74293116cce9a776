import BuilderPlanner.CommandLine
import BuilderPlanner.Proofs.Document.Rereading

/-!
# The texts of a plan hold the plan

A plan is written on one line or indented. It has no reader of its own, so one is given here: it
takes the members of every object by their keys, and there are no warnings if their member is left
out. What this reader finds in either text is the plan that was written.

* `PickedName.inverts`, `PlannedMember.inverts`, `MethodNames.inverts`, `PlannedProperty.inverts`,
  `Plan.inverts` — each part of a plan is found in the value that is written for it;
* `write_determines_plan` — the two texts hold one value, and this value belongs to one plan.
-/

namespace BuilderPlanner

open Json Decoder

/-! ### Parts of plans -/

theorem PickedName.inverts : Inverts decoder toJson := by
  have hvisibility : Inverts (variant PickedVisibility.words) fun v => .string v.word :=
    inverts_variant fun v => by cases v <;> rfl
  intro p
  rw [decoder, toJson, record_reading "NameAndVisibility" (by decide) rfl, fields,
    putAll_of inverts_string, putAll_of hvisibility]
  rfl

namespace PlannedMember

/-- The fields of a member. -/
def fields : List (RecordField PlannedMember) :=
  [.of "preferred_name" true string fun s m => { m with preferred := s },
    .of "returns" true string fun s m => { m with returns := s },
    .of "picked" true PickedName.decoder fun p m => { m with picked := p }]

/-- Reads a member. -/
def decoder : Decoder PlannedMember := record "MemberPlan" fields ⟨"", "", ⟨"", .everywhere⟩⟩

theorem inverts : Inverts decoder toJson := by
  intro m
  rw [decoder, toJson, record_reading "MemberPlan" (by decide) rfl, fields,
    putAll_of inverts_string, putAll_of inverts_string, putAll_of PickedName.inverts]
  rfl

end PlannedMember

namespace MethodNames

/-- No names, which reading starts with. -/
def blank : MethodNames := ⟨"", "", "", "", "", "", "", "", "", "", "", "", "", "", ""⟩

/-- The fields of the names. -/
def fields : List (RecordField MethodNames) :=
  [.of "getter" true string fun s n => { n with getter := s },
    .of "setter" true string fun s n => { n with setter := s },
    .of "nullable_setter" true string fun s n => { n with nullableSetter := s },
    .of "get_builder" true string fun s n => { n with getBuilder := s },
    .of "add" true string fun s n => { n with add := s },
    .of "add_all" true string fun s n => { n with addAll := s },
    .of "add_copies" true string fun s n => { n with addCopies := s },
    .of "put" true string fun s n => { n with put := s },
    .of "put_all" true string fun s n => { n with putAll := s },
    .of "remove" true string fun s n => { n with remove := s },
    .of "remove_all" true string fun s n => { n with removeAll := s },
    .of "set_count" true string fun s n => { n with setCount := s },
    .of "mapper" true string fun s n => { n with mapper := s },
    .of "mutator" true string fun s n => { n with mutator := s },
    .of "clear" true string fun s n => { n with clear := s }]

/-- Reads the names. -/
def decoder : Decoder MethodNames := record "BuilderMethodNames" fields blank

theorem inverts : Inverts decoder toJson := by
  intro n
  rw [decoder, toJson, record_reading "BuilderMethodNames" (by decide) rfl, toList, fields]
  simp only [List.map_cons, List.map_nil, putAll_of inverts_string]
  rfl

end MethodNames

namespace PlannedProperty

/-- The fields of a property. Those of its summary stand beside the names of its methods. -/
def fields : List (RecordField PlannedProperty) :=
  [.of "name" true string fun s p => { p with name := s },
    .of "capitalized_name" true string fun s p => { p with capitalized := s },
    .of "getter" true string fun s p => { p with getter := s },
    .of "type" true string fun s p => { p with type := s },
    .of "methods" true MethodNames.decoder fun n p => { p with methods := n },
    .of "builder_getter" true PickedName.decoder fun g p => { p with builderGetter := g }]

/-- Reads a property. -/
def decoder : Decoder PlannedProperty :=
  record "PropertyPlan" fields ⟨"", "", "", "", .blank, ⟨"", .everywhere⟩⟩

theorem inverts : Inverts decoder toJson := by
  intro p
  rw [decoder, toJson, record_reading "PropertyPlan" (by decide) rfl, fields,
    putAll_of inverts_string, putAll_of inverts_string, putAll_of inverts_string,
    putAll_of inverts_string, putAll_of MethodNames.inverts, putAll_of PickedName.inverts]
  rfl

end PlannedProperty

/-! ### Plans -/

theorem inverts_optional_creation :
    Inverts (optional (variant Creation.words)) fun way? => .optional (way?.map Creation.word) := by
  intro way?
  cases way? with
  | none => rfl
  | some way => cases way <;> rfl

namespace Plan

/-- The field for warnings, the only one that may be left out. -/
def warningsField : RecordField Plan :=
  .of "warnings" false stringsDecoder fun ws p => { p with warnings := ws }

/-- The fields that every plan is written with. -/
def requiredFields : List (RecordField Plan) :=
  [.of "value_type" true string fun s p => { p with valueType := s },
    .of "builder_type" true (optional string) fun s p => { p with builderType := s },
    .of "builder_factory" true (optional (variant Creation.words))
      fun way p => { p with creation := way },
    .of "new_builder_expression" true (optional string) fun s p => { p with newBuilder := s },
    .of "builder_members" true (list PlannedMember.decoder) fun ms p => { p with members := ms },
    .of "properties" true (list PlannedProperty.decoder) fun ps p => { p with properties := ps }]

/-- Reads a plan. -/
def decoder : Decoder Plan :=
  record "GenerationPlan" (requiredFields ++ [warningsField]) ⟨"", none, none, none, [], [], []⟩

/-- The members of a plan that are written whether or not there are warnings fill all but these. -/
theorem putAll_requiredFields (p start : Plan) (fields : List (RecordField Plan))
    (members : List (String × Value)) :
    putAll (requiredFields ++ fields)
        ([("value_type", .string p.valueType), ("builder_type", .optional p.builderType),
          ("builder_factory", .optional (p.creation.map Creation.word)),
          ("new_builder_expression", .optional p.newBuilder),
          ("builder_members", .array (p.members.map PlannedMember.toJson)),
          ("properties", .array (p.properties.map PlannedProperty.toJson))] ++ members) start =
      putAll fields members { p with warnings := start.warnings } := by
  simp only [requiredFields, List.cons_append, List.nil_append]
  rw [putAll_of inverts_string, putAll_of inverts_optional_string,
    putAll_of inverts_optional_creation, putAll_of inverts_optional_string,
    putAll_of PlannedMember.inverts.list, putAll_of PlannedProperty.inverts.list]

theorem inverts : Inverts decoder toJson := by
  intro p
  have hnodup : ((requiredFields ++ [warningsField]).map RecordField.name).Nodup := by decide
  rw [decoder, toJson, warningsMember]
  cases hw : p.warnings with
  | nil =>
    have hrequired : ∀ f ∈ requiredFields ++ [warningsField], f.required = true →
        f ∈ requiredFields := by
      intro f hf hf'
      rcases List.mem_append.1 hf with hf | hf
      · exact hf
      · rw [List.mem_singleton.1 hf] at hf'
        exact absurd hf' Bool.false_ne_true
    rw [record_reading_of_required "GenerationPlan" hnodup (List.sublist_append_left _ _) hrequired
      rfl]
    refine (putAll_requiredFields p _ [] []).trans ?_
    rw [← hw]
    rfl
  | cons w ws =>
    rw [record_reading "GenerationPlan" hnodup rfl]
    refine (putAll_requiredFields p _ [warningsField] [("warnings", .strings (w :: ws))]).trans ?_
    rw [warningsField, putAll_of inverts_strings, ← hw]
    rfl

end Plan

/-! ### Texts -/

theorem isBlank_layoutOf (indented : Bool) : (layoutOf indented).IsBlank := by
  cases indented with
  | false => exact Layout.isBlank_compact
  | true => exact Layout.isBlank_indented

/-- The text of a plan is JSON for the value of the plan, whatever its layout. -/
theorem Plan.ofText_write (p : Plan) (indented : Bool) :
    Reading.ofText (p.write (layoutOf indented)).toList = (p.toJson.reading, false) := by
  rw [Plan.write, Value.write, String.toList_ofList]
  exact Reading.ofText_writeAt (isBlank_layoutOf indented) p.toJson

theorem Plan.decode_write (p : Plan) (indented : Bool) :
    Decoder.ofText Plan.decoder (p.write (layoutOf indented)) = .ok p := by
  rw [Plan.write, Decoder.ofText_write (isBlank_layoutOf indented)]
  exact Plan.inverts p

/-- Values that are read alike are those of one plan. -/
theorem Plan.reading_toJson_inj {p q : Plan} : p.toJson.reading = q.toJson.reading ↔ p = q := by
  refine ⟨fun h => ?_, fun h => h ▸ rfl⟩
  have hread : Except.ok p = Except.ok (ε := Fault) q :=
    calc Except.ok p = Plan.decoder p.toJson.reading := (Plan.inverts p).symm
      _ = Plan.decoder q.toJson.reading := by rw [h]
      _ = Except.ok q := Plan.inverts q
  exact Except.ok.inj hread

/-- **The texts of a plan hold one value, and the value holds the plan.** Whatever characters occur
in a plan, both of its texts are JSON and are read as the same value, from which every field is taken
again by its key. So plans whose texts are read as one value, one of them maybe indented and the
other one not, are the same, and in particular those with one text. -/
theorem write_determines_plan :
    (∀ (p : Plan) (indented : Bool),
      Reading.ofText (p.write (layoutOf indented)).toList = (p.toJson.reading, false) ∧
        Decoder.ofText Plan.decoder (p.write (layoutOf indented)) = .ok p) ∧
    (∀ (p q : Plan) (indented indented' : Bool),
      Reading.ofText (p.write (layoutOf indented)).toList =
        Reading.ofText (q.write (layoutOf indented')).toList ↔ p = q) ∧
    ∀ (p q : Plan) (indented : Bool),
      p.write (layoutOf indented) = q.write (layoutOf indented) ↔ p = q := by
  refine ⟨fun p indented => ⟨p.ofText_write indented, p.decode_write indented⟩,
    fun p q indented indented' => ?_, fun p q indented => ⟨fun h => ?_, fun h => h ▸ rfl⟩⟩
  · rw [p.ofText_write indented, q.ofText_write indented', Prod.mk.injEq]
    exact (and_iff_left rfl).trans Plan.reading_toJson_inj
  · have hread := p.ofText_write indented
    rw [h, q.ofText_write indented] at hread
    exact (Plan.reading_toJson_inj.1 (congrArg Prod.fst hread)).symm

end BuilderPlanner
