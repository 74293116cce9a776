import BuilderPlanner.Proofs.Plan.Collisions

/-!
# Warnings tell what happened

The warnings of a plan can be read off its other parts: whether the user wrote the builder, how one
is made, which names were not kept, and whether there are properties.

* `Plan.told` — the warnings that the parts of a plan call for, in their order;
* `Warning.ending_eq_of_message_eq` — the four kinds of warnings never have the same text;
* `Catalog.Reports` — what these parts say of the declarations;
* `Catalog.plan_warnings` — every plan has the warnings that its parts call for, and no others.
-/

namespace BuilderPlanner

/-! ### Kinds of warnings -/

/-- The last word of a warning, which tells its kind. -/
def Warning.ending : Warning → String
  | noBuilder _ => "respect"
  | noCreation _ => "omitted"
  | clash _ _ _ => "instead"
  | noGetters _ => "getters"

namespace Warning

theorem length_ending (w : Warning) : w.ending.toList.length = 7 := by
  cases w <;> simp [ending]

theorem suffix_append (word : String) {s t : String} (h : word.toList <:+ t.toList) :
    word.toList <:+ (s ++ t).toList := by
  rw [String.toList_append]
  exact h.trans (List.suffix_append _ _)

theorem ending_suffix_message (w : Warning) : w.ending.toList <:+ w.message.toList := by
  cases w with
  | noBuilder builder => exact suffix_append "respect" (by decide +kernel)
  | noCreation builder => exact suffix_append "omitted" (by decide +kernel)
  | clash preferred builder picked => exact suffix_append "instead" (by decide +kernel)
  | noGetters valueType => exact suffix_append "getters" (by decide +kernel)

/-- All last words have the same length, so the text tells the last word. -/
theorem ending_eq_of_message_eq {w w' : Warning} (h : w.message = w'.message) :
    w.ending = w'.ending := by
  have hsuffix := w.ending_suffix_message
  rw [h] at hsuffix
  have hlength : w.ending.toList.length = w'.ending.toList.length := by
    rw [length_ending, length_ending]
  have hle := List.suffix_of_suffix_length_le hsuffix w'.ending_suffix_message hlength.le
  exact String.toList_inj.1 (hle.eq_of_length hlength)

end Warning

/-! ### Warnings that a plan calls for -/

namespace Plan

/-- One warning for every name that was not kept. -/
def clashesOf (builder : String) (picks : List (String × PickedName)) : List Warning :=
  (picks.filter fun a => a.2.name ≠ a.1).map fun a => .clash a.1 builder a.2.name

/-- The warnings that the other parts of a plan call for. -/
def told (p : Plan) (builder : String) : List Warning :=
  (if p.builderType = none then [.noBuilder builder]
    else if p.creation = none then [.noCreation builder] else []) ++
  clashesOf builder p.memberPicks ++
  (if p.properties = [] then [.noGetters p.valueType] else []) ++
  clashesOf builder p.getterPicks

/-- A warning is called for, wherever it stands. -/
inductive CallsFor (p : Plan) (builder : String) : Warning → Prop
  | noBuilder (h : p.builderType = none) : p.CallsFor builder (.noBuilder builder)
  | noCreation (hbuilder : p.builderType ≠ none) (h : p.creation = none) :
      p.CallsFor builder (.noCreation builder)
  | clash {a : String × PickedName} (ha : a ∈ p.memberPicks ++ p.getterPicks)
      (h : a.2.name ≠ a.1) : p.CallsFor builder (.clash a.1 builder a.2.name)
  | noGetters (h : p.properties = []) : p.CallsFor builder (.noGetters p.valueType)

variable {p : Plan} {builder : String} {w : Warning}

theorem mem_clashesOf {picks : List (String × PickedName)} :
    w ∈ clashesOf builder picks ↔
      ∃ a ∈ picks, a.2.name ≠ a.1 ∧ w = .clash a.1 builder a.2.name := by
  simp only [clashesOf, List.mem_map, List.mem_filter, decide_eq_true_eq]
  constructor
  · intro h
    obtain ⟨a, ⟨ha, hne⟩, rfl⟩ := h
    exact ⟨a, ha, hne, rfl⟩
  · intro h
    obtain ⟨a, ha, hne, rfl⟩ := h
    exact ⟨a, ⟨ha, hne⟩, rfl⟩

theorem mem_told : w ∈ p.told builder ↔ p.CallsFor builder w := by
  simp only [told, List.mem_append, mem_clashesOf]
  constructor
  · intro h
    rcases h with ((h | h) | h) | h
    · split at h
      · next hnone =>
        obtain rfl := List.mem_singleton.1 h
        exact .noBuilder hnone
      · next hsome =>
        split at h
        · next hnone =>
          obtain rfl := List.mem_singleton.1 h
          exact .noCreation hsome hnone
        · cases h
    · obtain ⟨a, ha, hne, rfl⟩ := h
      exact .clash (List.mem_append_left _ ha) hne
    · split at h
      · next hnone =>
        obtain rfl := List.mem_singleton.1 h
        exact .noGetters hnone
      · cases h
    · obtain ⟨a, ha, hne, rfl⟩ := h
      exact .clash (List.mem_append_right _ ha) hne
  · intro h
    cases h with
    | noBuilder h => simp [h]
    | noCreation hbuilder h => simp [hbuilder, h]
    | clash ha hne =>
      rcases List.mem_append.1 ha with ha | ha
      · exact .inl (.inl (.inr ⟨_, ha, hne, rfl⟩))
      · exact .inr ⟨_, ha, hne, rfl⟩
    | noGetters h => simp [h]

/-- Of each kind but clashes, a plan calls for one warning at most. -/
theorem CallsFor.eq_of_ending {w' : Warning} (h : p.CallsFor builder w)
    (hw' : w' ∈ [.noBuilder builder, .noCreation builder, .noGetters p.valueType])
    (hending : w.ending = w'.ending) : w = w' := by
  simp only [List.mem_cons, List.not_mem_nil, or_false] at hw'
  rcases hw' with rfl | rfl | rfl <;> cases h <;> first | rfl | simp [Warning.ending] at hending

/-- Such a warning is in the texts only if it is called for itself. -/
theorem message_mem_told
    (hw : w ∈ [.noBuilder builder, .noCreation builder, .noGetters p.valueType]) :
    w.message ∈ (p.told builder).map Warning.message ↔ p.CallsFor builder w := by
  constructor
  · intro h
    obtain ⟨w', hw', heq⟩ := List.mem_map.1 h
    have hcalls := mem_told.1 hw'
    rwa [hcalls.eq_of_ending hw (Warning.ending_eq_of_message_eq heq)] at hcalls
  · intro h
    exact List.mem_map_of_mem (mem_told.2 h)

theorem callsFor_noBuilder_iff : p.CallsFor builder (.noBuilder builder) ↔ p.builderType = none := by
  constructor
  · intro h
    cases h
    assumption
  · exact .noBuilder

theorem callsFor_noCreation_iff :
    p.CallsFor builder (.noCreation builder) ↔ p.builderType ≠ none ∧ p.creation = none := by
  constructor
  · intro h
    cases h
    exact ⟨‹_›, ‹_›⟩
  · intro h
    exact .noCreation h.1 h.2

theorem callsFor_noGetters_iff :
    p.CallsFor builder (.noGetters p.valueType) ↔ p.properties = [] := by
  constructor
  · intro h
    cases h
    assumption
  · exact .noGetters

/-- A plan whose builder and names are its own affair calls for little. -/
theorem told_eq_of_kept (hnone : p.builderType = none)
    (hkept : ∀ a ∈ p.memberPicks ++ p.getterPicks, a.2.name = a.1) :
    p.told builder = .noBuilder builder ::
      if p.properties = [] then [.noGetters p.valueType] else [] := by
  have hnothing : ∀ picks ⊆ p.memberPicks ++ p.getterPicks, clashesOf builder picks = [] := by
    intro picks hpicks
    rw [clashesOf, List.map_eq_nil_iff, List.filter_eq_nil_iff]
    intro a ha
    simp [hkept a (hpicks ha)]
  rw [told, if_pos hnone, hnothing _ (List.subset_append_left _ _),
    hnothing _ (List.subset_append_right _ _), List.append_nil, List.append_nil]
  rfl

end Plan

/-! ### What a plan says of the declarations -/

/-- A name is moved if and only if a member of the builder of the user blocks it. -/
theorem pickOn_name_ne_iff {surface : Option (List Member)} {a : String × JavaType}
    (hnodup : ∀ members, surface = some members →
      ((parameterless members).map Member.name).Nodup) :
    (pickOn surface a.2 a.1).name ≠ a.1 ↔ ∃ n, MovedTo surface a n := by
  constructor
  · intro hne
    rcases keeps_or_movedTo surface a with ha | ha
    · exact absurd (ha.pickOn_name hnodup) hne
    · exact ha
  · intro h
    obtain ⟨n, ha⟩ := h
    rw [ha.pickOn_name hnodup]
    exact alternativeName_ne a.1 n

namespace Catalog

variable {c : Catalog} {preferences : Preferences} {valueType : String} {d : Declaration}

/-- What the parts of a plan that call for warnings say of the declarations. -/
structure Reports (c : Catalog) (preferences : Preferences) (valueType : String) (d : Declaration)
    (p : Plan) : Prop where
  name : p.valueType = valueType
  builder : p.builderType = none ↔ c.find? (preferences.builderOf valueType) = none
  creation : p.builderType ≠ none →
    p.creation = c.creation? (preferences.builderOf valueType)
  members : p.memberPicks.map Prod.fst = ["build", "buildPartial", "clear"]
  picks : List.Forall₂
    (fun wanted pick => pick.1 = wanted.1 ∧
      (pick.2.name ≠ pick.1 ↔ ∃ n, MovedTo (c.userBuilder? preferences valueType d) wanted n))
    (c.wantedNames preferences valueType d) (p.memberPicks ++ p.getterPicks)
  properties : p.properties = [] ↔ ∀ m ∈ c.membersOf d.declaredType, m.isGetter = false

theorem builderType_planFor :
    (c.planFor preferences valueType d).builderType =
      if (c.find? (preferences.builderOf valueType)).isSome then
        some (preferences.builderOf valueType) else none := rfl

theorem builderType_planFor_eq_none_iff :
    (c.planFor preferences valueType d).builderType = none ↔
      c.find? (preferences.builderOf valueType) = none := by
  rw [builderType_planFor]
  cases c.find? (preferences.builderOf valueType) <;> simp

theorem creation_planFor (h : (c.planFor preferences valueType d).builderType ≠ none) :
    (c.planFor preferences valueType d).creation =
      c.creation? (preferences.builderOf valueType) := by
  have hsome := mt builderType_planFor_eq_none_iff.2 h
  show (if (c.find? (preferences.builderOf valueType)).isSome then
    c.creation? (preferences.builderOf valueType) else none) = _
  rw [if_pos (Option.isSome_iff_ne_none.2 hsome)]

theorem propertiesOf_eq_nil_iff (members : List Member) (convention : Convention) :
    propertiesOf members convention = [] ↔ ∀ m ∈ members, m.isGetter = false := by
  rw [← List.map_eq_nil_iff (f := Property.getter), map_getter_propertiesOf, List.map_eq_nil_iff,
    List.filter_eq_nil_iff]
  simp only [Bool.not_eq_true]

theorem reports_planFor (c : Catalog) (preferences : Preferences) (valueType : String)
    (d : Declaration) :
    c.Reports preferences valueType d (c.planFor preferences valueType d) where
  name := rfl
  builder := builderType_planFor_eq_none_iff
  creation := creation_planFor
  members := rfl
  picks := by
    rw [picks_planFor, List.forall₂_map_right_iff, List.forall₂_same]
    intro a _
    exact ⟨rfl, pickOn_name_ne_iff fun members h => nodup_of_userBuilder? h⟩
  properties := by
    rw [planFor, List.map_eq_nil_iff, propertiesOf_eq_nil_iff]

/-! ### The warnings of a plan -/

theorem flatMap_clashes (builder : String) (picks : List (String × PickedName)) :
    picks.flatMap (fun a => clashes builder a.1 a.2) = Plan.clashesOf builder picks := by
  induction picks with
  | nil => rfl
  | cons a picks ih =>
    rw [List.flatMap_cons, ih, clashes]
    by_cases h : a.2.name = a.1 <;> simp [Plan.clashesOf, h]

theorem builderWarnings_eq (c : Catalog) (preferences : Preferences) (valueType : String)
    (d : Declaration) :
    c.builderWarnings (preferences.builderOf valueType) =
      if (c.planFor preferences valueType d).builderType = none then
        [.noBuilder (preferences.builderOf valueType)]
      else if (c.planFor preferences valueType d).creation = none then
        [.noCreation (preferences.builderOf valueType)]
      else [] := by
  simp only [builderWarnings, Option.isNone_iff_eq_none]
  by_cases h : (c.planFor preferences valueType d).builderType = none
  · rw [if_pos h, if_pos (builderType_planFor_eq_none_iff.1 h)]
  · rw [if_neg h, if_neg (mt builderType_planFor_eq_none_iff.2 h), creation_planFor h]

theorem warnings_planFor (c : Catalog) (preferences : Preferences) (valueType : String)
    (d : Declaration) :
    (c.planFor preferences valueType d).warnings =
      ((c.planFor preferences valueType d).told (preferences.builderOf valueType)).map
        Warning.message := by
  rw [Plan.told, ← builderWarnings_eq, ← flatMap_clashes, ← flatMap_clashes, Plan.memberPicks,
    Plan.getterPicks, List.flatMap_map, List.flatMap_map]
  simp only [← List.isEmpty_iff]
  rfl

/-- Without a builder of the user all wanted names are picked. -/
theorem eq_everywhere_of_mem_picks (h : (c.planFor preferences valueType d).builderType = none)
    {a : String × PickedName} (ha : a ∈ (c.planFor preferences valueType d).memberPicks ++
      (c.planFor preferences valueType d).getterPicks) : a.2 = ⟨a.1, .everywhere⟩ := by
  have hnone := builderType_planFor_eq_none_iff.1 h
  have hsurface : c.userBuilder? preferences valueType d = none := by
    simp [userBuilder?, builderSurface?, hnone]
  rw [picks_planFor, hsurface] at ha
  obtain ⟨wanted, -, rfl⟩ := List.mem_map.1 ha
  rfl

/-- **Warnings tell what happened.** A declared value type has a plan, and its warnings are those
that the other parts of the plan call for, in their order: one on a builder that the user did not
write, or else on a builder that cannot be made; one for each member of the builder itself whose
name was not kept; one on missing properties; and one for each getter whose name was not kept. Each
of the warnings that are not about names is there if and only if it is called for. Without a builder
of the user all names are kept, and are public. -/
theorem plan_warnings (hcheck : preferences.check = .ok ()) (hd : c.find? valueType = some d) :
    ∃ p, c.plan preferences valueType = .ok p ∧ c.Reports preferences valueType d p ∧
      p.warnings = (p.told (preferences.builderOf valueType)).map Warning.message ∧
      ((Warning.noBuilder (preferences.builderOf valueType)).message ∈ p.warnings ↔
        p.builderType = none) ∧
      ((Warning.noCreation (preferences.builderOf valueType)).message ∈ p.warnings ↔
        p.builderType ≠ none ∧ p.creation = none) ∧
      ((Warning.noGetters valueType).message ∈ p.warnings ↔ p.properties = []) ∧
      (p.builderType = none →
        (∀ a ∈ p.memberPicks ++ p.getterPicks, a.2 = ⟨a.1, .everywhere⟩) ∧
        p.warnings = (Warning.noBuilder (preferences.builderOf valueType)).message ::
          if p.properties = [] then [(Warning.noGetters valueType).message] else []) := by
  refine ⟨_, plan_eq_ok hcheck hd, reports_planFor c preferences valueType d,
    warnings_planFor c preferences valueType d, ?_, ?_, ?_, ?_⟩
  · rw [warnings_planFor, Plan.message_mem_told (by simp), Plan.callsFor_noBuilder_iff]
  · rw [warnings_planFor, Plan.message_mem_told (by simp), Plan.callsFor_noCreation_iff]
  · have hname : (c.planFor preferences valueType d).valueType = valueType := rfl
    rw [warnings_planFor, ← Plan.callsFor_noGetters_iff, hname]
    exact Plan.message_mem_told (by simp [hname])
  · intro hnone
    have hpicks := fun a => eq_everywhere_of_mem_picks hnone (a := a)
    refine ⟨hpicks, ?_⟩
    rw [warnings_planFor, Plan.told_eq_of_kept hnone fun a ha => by rw [hpicks a ha]]
    split <;> rfl

/-- A house with a builder that has methods of its own, and no constructor. -/
def houseWithBuilder : Document where
  types := .ofList
    [("a.House",
      { kind := .interfaceKind, methods := [{ name := "rooms", returns := "int" }] }),
      ("a.House.Builder",
      { methods := [{ name := "build" }, { name := "rooms", returns := "long" }] })]

/-- Without a builder there is one warning. With this builder two names are not kept, because the
results differ. -/
theorem plan_warnings_house :
    (∃ c, (oneGetter "rooms").catalog = .ok c ∧ ∃ p, c.plan {} "a.House" = .ok p ∧
      p.warnings = ["no user builder 'a.House.Builder' declared; the generated builder has no " ++
        "user methods to respect"]) ∧
    ∃ c, houseWithBuilder.catalog = .ok c ∧ ∃ p, c.plan {} "a.House" = .ok p ∧
      p.warnings =
        ["'a.House.Builder' has no builder() or newBuilder() factory and no accessible no-args " ++
            "constructor; default-value support omitted",
          "build() on 'a.House.Builder' clashes with an existing method; generating " ++
            "_buildImpl() instead",
          "rooms() on 'a.House.Builder' clashes with an existing method; generating " ++
            "_roomsImpl() instead"] := by
  have hname : ({} : Preferences).builderOf "a.House" = "a.House.Builder" := rfl
  constructor
  · obtain ⟨c, hc, d, hd, p', hp', hbuilder, hproperties⟩ :=
      exists_of_eval (oneGetter "rooms").catalog
        (fun c => ∃ d ∈ c.find? "a.House", ∃ p ∈ (c.plan {} "a.House").toOption,
          p.builderType = none ∧ p.properties ≠ []) (by decide +kernel)
    obtain ⟨p, hp, -, -, -, -, -, hnone⟩ := plan_warnings check_default hd
    obtain rfl : p' = p := Except.ok.inj ((toOption_eq_some_iff.1 hp').symm.trans hp)
    refine ⟨c, hc, p', hp, ?_⟩
    rw [(hnone hbuilder).2, if_neg hproperties, hname]
    decide +kernel
  · obtain ⟨c, hc, d, hd, p', hp', htold⟩ := exists_of_eval houseWithBuilder.catalog
      (fun c => ∃ d ∈ c.find? "a.House", ∃ p ∈ (c.plan {} "a.House").toOption,
        p.told "a.House.Builder" =
          [.noCreation "a.House.Builder", .clash "build" "a.House.Builder" "_buildImpl",
            .clash "rooms" "a.House.Builder" "_roomsImpl"]) (by decide +kernel)
    obtain ⟨p, hp, -, hwarnings, -⟩ := plan_warnings check_default hd
    obtain rfl : p' = p := Except.ok.inj ((toOption_eq_some_iff.1 hp').symm.trans hp)
    refine ⟨c, hc, p', hp, ?_⟩
    rw [hwarnings, hname, htold]
    decide +kernel

end Catalog

end BuilderPlanner
