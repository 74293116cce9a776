import BuilderPlanner.Proofs.Property.Getters

/-!
# How properties get their names from their getters

A convention says whether beginnings of getters are dropped. The default one looks at the getters
and then does as one of the other two.

* `IsBeanStyle` — getters with a beginning that can be dropped;
* `Property.IsKept`, `Property.IsShort` — properties that keep the name of their getter, and those
  that are called by what follows the beginning;
* `isKept_or_isShort_of_mem` — there are no others;
* `propertiesOf_auto` — the default convention;
* `propertiesOf_convention` — how the conventions fit together, and what each makes of a getter.
-/

namespace BuilderPlanner

/-! ### Getters with a beginning -/

/-- The types of truth values. -/
def JavaType.IsTruthValue (t : JavaType) : Prop :=
  t = .plain "boolean" ∨ t = .plain "java.lang.Boolean"

theorem JavaType.isBoolean_iff {t : JavaType} : t.isBoolean = true ↔ t.IsTruthValue := by
  unfold IsTruthValue
  cases t with
  | named n args =>
    cases args with
    | nil => simp [isBoolean]
    | cons _ _ => simp [isBoolean]
  | var | array | wildcard | bounded => simp [isBoolean]

/-- A getter with the name of a property behind `get` or, if it gives a truth value, behind `is`. -/
def IsBeanStyle (getter : String) (type : JavaType) : Prop :=
  ∃ stem, IsStem stem ∧ (getter = "get" ++ stem ∨ type.IsTruthValue ∧ getter = "is" ++ stem)

theorem isSome_beanSuffix?_iff {getter : String} {type : JavaType} :
    (beanSuffix? getter type).isSome = true ↔ IsBeanStyle getter type := by
  rw [Option.isSome_iff_exists]
  refine exists_congr fun stem => ?_
  rw [beanSuffix?_eq_some_iff, JavaType.isBoolean_iff, and_comm]

instance (getter : String) (type : JavaType) : Decidable (IsBeanStyle getter type) :=
  decidable_of_iff _ isSome_beanSuffix?_iff

/-! ### Names of single properties -/

namespace Property

/-- A property that is called like its getter. -/
structure IsKept (p : Property) : Prop where
  name_eq : p.name = p.getter
  capitalized_eq : p.capitalized = capitalize p.getter

/-- A property that is called by what follows the beginning of its getter. -/
structure IsShort (p : Property) : Prop where
  getter_eq : p.getter = "get" ++ p.capitalized ∨
    p.type.IsTruthValue ∧ p.getter = "is" ++ p.capitalized
  isCapitalized : IsCapitalized p.capitalized
  name_eq : p.name = decapitalize p.capitalized

end Property

theorem isKept_plainProperty (m : Member) : (plainProperty m).IsKept := ⟨rfl, rfl⟩

theorem isKept_shortProperty {m : Member} (h : ¬IsBeanStyle m.name m.returns) :
    (shortProperty m).IsKept := by
  have hstem : m.stem? = none := by
    rw [← Option.not_isSome_iff_eq_none]
    exact fun hsome => h (isSome_beanSuffix?_iff.1 hsome)
  constructor
  · rw [name_shortProperty, getter_shortProperty, hstem]
    rfl
  · rw [capitalized_shortProperty, getter_shortProperty, hstem]
    rfl

theorem isShort_shortProperty {m : Member} (h : IsBeanStyle m.name m.returns) :
    (shortProperty m).IsShort := by
  obtain ⟨stem, hstem⟩ := Option.isSome_iff_exists.1 (isSome_beanSuffix?_iff.2 h)
  obtain ⟨hgetter, hcapital⟩ := beanSuffix?_eq_some_iff.1 hstem
  have hcapitalized : (shortProperty m).capitalized = stem := by
    rw [capitalized_shortProperty, Member.stem?, hstem]
    rfl
  refine ⟨?_, hcapitalized ▸ hcapital.isCapitalized, ?_⟩
  · rw [hcapitalized, getter_shortProperty, type_shortProperty, ← JavaType.isBoolean_iff]
    exact hgetter
  · rw [hcapitalized, name_shortProperty, Member.stem?, hstem]
    rfl

/-! ### The properties of a surface -/

section

variable {members : List Member} {convention : Convention} {p : Property}

/-- The default convention drops beginnings if there are getters and all have one. -/
theorem dropsFor_auto_iff {getters : List Member} :
    Convention.dropsFor .auto getters = true ↔
      getters ≠ [] ∧ ∀ m ∈ getters, IsBeanStyle m.name m.returns := by
  simp [Convention.dropsFor, isSome_beanSuffix?_iff]

/-- The default convention is one of the others, by the getters alone. -/
theorem propertiesOf_auto (members : List Member) :
    propertiesOf members .auto = propertiesOf members
      (if ∀ m ∈ members, m.isGetter = true → IsBeanStyle m.name m.returns then .prefixed
        else .plain) := by
  have hall : (∀ m ∈ members, m.isGetter = true → IsBeanStyle m.name m.returns) ↔
      ∀ m ∈ members.filter Member.isGetter, IsBeanStyle m.name m.returns := by
    simp only [List.mem_filter, and_imp]
  rw [propertiesOf, propertiesOf]
  generalize members.filter Member.isGetter = getters at hall ⊢
  -- Without getters the conventions do not differ.
  by_cases hnone : getters = []
  · rw [hnone, List.map_nil, List.map_nil]
  · have hdrops : Convention.dropsFor .auto getters = true ↔
        ∀ m ∈ getters, IsBeanStyle m.name m.returns :=
      dropsFor_auto_iff.trans (and_iff_right hnone)
    by_cases hbean : ∀ m ∈ getters, IsBeanStyle m.name m.returns
    · rw [if_pos (hall.2 hbean), hdrops.2 hbean]
      rfl
    · rw [if_neg fun h => hbean (hall.1 h), if_neg fun h => hbean (hdrops.1 h)]
      rfl

theorem isKept_of_mem_plain (hp : p ∈ propertiesOf members .plain) : p.IsKept := by
  obtain ⟨m, -, rfl⟩ := List.mem_map.1 hp
  exact isKept_plainProperty m

theorem isShort_or_isKept_of_mem_prefixed (hp : p ∈ propertiesOf members .prefixed) :
    if IsBeanStyle p.getter p.type then p.IsShort else p.IsKept := by
  obtain ⟨m, -, rfl⟩ := List.mem_map.1 hp
  show if IsBeanStyle (shortProperty m).getter (shortProperty m).type then
    (shortProperty m).IsShort else (shortProperty m).IsKept
  rw [getter_shortProperty, type_shortProperty]
  split
  · rename_i hbean
    exact isShort_shortProperty hbean
  · rename_i hbean
    exact isKept_shortProperty hbean

theorem isKept_or_isShort_of_mem (hp : p ∈ propertiesOf members convention) :
    p.IsKept ∨ p.IsShort := by
  obtain ⟨m, -, rfl⟩ := List.mem_map.1 hp
  split
  · by_cases hbean : IsBeanStyle m.name m.returns
    · exact .inr (isShort_shortProperty hbean)
    · exact .inl (isKept_shortProperty hbean)
  · exact .inl (isKept_plainProperty m)

theorem map_getter_type_propertiesOf (members : List Member) (convention : Convention) :
    (propertiesOf members convention).map (fun p => (p.getter, p.type)) =
      (members.filter Member.isGetter).map fun m => (m.name, m.returns) := by
  rw [propertiesOf, List.map_map]
  refine List.map_congr_left fun m _ => ?_
  rw [Function.comp_apply]
  split
  · rw [getter_shortProperty, type_shortProperty]
  · rfl

end

/-- **How properties get their names.** The default convention drops beginnings, where there are
any, if all getters have one, and else keeps all names; members that are no getters do not count.
One convention keeps every name, one keeps only names without a beginning. Under each there is one
property for each getter, in order and with its type, and it is called either like the getter or by
what follows a beginning of the getter. -/
theorem propertiesOf_convention (members : List Member) :
    propertiesOf members .auto = propertiesOf members
        (if ∀ m ∈ members, m.isGetter = true → IsBeanStyle m.name m.returns then .prefixed
          else .plain) ∧
      (∀ p ∈ propertiesOf members .plain, p.IsKept) ∧
      (∀ p ∈ propertiesOf members .prefixed,
        if IsBeanStyle p.getter p.type then p.IsShort else p.IsKept) ∧
      ∀ convention,
        (propertiesOf members convention).map (fun p => (p.getter, p.type)) =
            (members.filter Member.isGetter).map (fun m => (m.name, m.returns)) ∧
          ∀ p ∈ propertiesOf members convention, p.IsKept ∨ p.IsShort := by
  refine ⟨propertiesOf_auto members, fun p hp => isKept_of_mem_plain hp,
    fun p hp => isShort_or_isKept_of_mem_prefixed hp, fun convention => ⟨?_, ?_⟩⟩
  · exact map_getter_type_propertiesOf members convention
  · intro p hp
    exact isKept_or_isShort_of_mem hp

/-- One getter without a beginning keeps the names of the others. -/
example :
    let getter (n : String) : Member := ⟨n, "a.House", [], .plain "int", .everywhere, [], true⟩
    (propertiesOf [getter "getSize", getter "isOpen"] .auto).map Property.name =
        ["getSize", "isOpen"] ∧
      (propertiesOf [getter "getSize", getter "isOpen"] .prefixed).map Property.name =
        ["size", "isOpen"] := by
  decide +kernel

end BuilderPlanner
