import BuilderPlanner.Plan.Basic
import BuilderPlanner.Proofs.Catalog.Loaded
import BuilderPlanner.Proofs.Pick.FirstFit
import BuilderPlanner.Proofs.Plan.Collisions

/-!
# Methods and constructors with parameters do not matter for a plan

They stand among the others in declarations and in the surfaces that are made of these, but each
decision of a plan passes them over.

* `Declaration.parameterless` — a declaration without them;
* `Catalog.SameParameterless` — two catalogs that differ in nothing else;
* `Catalog.SameParameterless.parameterless_membersOf` — their surfaces have the same members without
  parameters;
* `Catalog.plan_eq_of_sameParameterless` — they have the same plans.
-/

namespace BuilderPlanner

/-! ### Declarations -/

/-- A declaration with only those of its methods and constructors that have no parameters. -/
def Declaration.parameterless (d : Declaration) : Declaration :=
  { d with
    methods := d.methods.filter (·.params.isEmpty)
    constructors := d.constructors.filter (·.params.isEmpty) }

theorem any_makes_parameterless (d : Declaration) (name returns : String) :
    d.parameterless.methods.any (Method.makes name returns) =
      d.methods.any (Method.makes name returns) := by
  rw [Declaration.parameterless, List.any_filter]
  congr 1
  funext m
  cases h : m.params.isEmpty with
  | true => rw [Bool.true_and]
  | false => simp [Method.makes, h]

theorem hasOpenConstructor_parameterless (d : Declaration) :
    d.parameterless.hasOpenConstructor = d.hasOpenConstructor := by
  rw [Declaration.hasOpenConstructor, Declaration.parameterless, List.any_filter,
    Declaration.hasOpenConstructor]
  congr 1
  funext k
  rw [← Bool.and_assoc, Bool.and_self]

/-- What makes no use of methods and constructors with parameters is the same for declarations that
differ in nothing else. -/
theorem bind_eq_of_parameterless {α : Type} {o o' : Option Declaration}
    (h : o.map Declaration.parameterless = o'.map Declaration.parameterless)
    {f : Declaration → Option α} (hf : ∀ d, f d.parameterless = f d) : o.bind f = o'.bind f := by
  have hbind : ∀ o : Option Declaration, o.bind f = (o.map Declaration.parameterless).bind f := by
    intro o
    cases o with
    | none => rfl
    | some d => exact (hf d).symm
  rw [hbind o, hbind o', h]

theorem map_eq_of_parameterless {α : Type} {o o' : Option Declaration}
    (h : o.map Declaration.parameterless = o'.map Declaration.parameterless)
    {f : Declaration → α} (hf : ∀ d, f d.parameterless = f d) : o.map f = o'.map f := by
  rw [Option.map_eq_bind, Option.map_eq_bind]
  exact bind_eq_of_parameterless h fun d => congrArg some (hf d)

theorem none_or_some_of_parameterless {o o' : Option Declaration}
    (h : o.map Declaration.parameterless = o'.map Declaration.parameterless) :
    (o = none ∧ o' = none) ∨
      ∃ d d', o = some d ∧ o' = some d' ∧ d.parameterless = d'.parameterless := by
  cases o with
  | none => exact .inl ⟨rfl, Option.map_eq_none_iff.1 h.symm⟩
  | some d =>
    obtain ⟨d', hd', heq⟩ := Option.map_eq_some_iff.1 h.symm
    exact .inr ⟨d, d', rfl, hd', heq.symm⟩

/-- Getters are without parameters. -/
theorem propertiesOf_parameterless (members : List Member) (convention : Convention) :
    propertiesOf members convention = propertiesOf (parameterless members) convention := by
  have hgetters : (parameterless members).filter Member.isGetter =
      members.filter Member.isGetter := by
    rw [parameterless, List.filter_filter]
    congr 1
    funext m
    cases hm : m.params.isEmpty with
    | true => rw [Bool.and_true]
    | false => simp [Member.isGetter, hm]
  rw [propertiesOf, propertiesOf, hgetters]

/-- Names are picked in view of members without parameters. -/
theorem pickOn_eq_of_parameterless {surface surface' : Option (List Member)}
    (h : surface.map parameterless = surface'.map parameterless) (returns : JavaType)
    (preferred : String) : pickOn surface returns preferred = pickOn surface' returns preferred := by
  have hpick : ∀ surface : Option (List Member), pickOn surface returns preferred =
      pickOn (surface.map parameterless) returns preferred := by
    intro surface
    cases surface with
    | none => rfl
    | some members =>
      show pickName members returns preferred = pickName (parameterless members) returns preferred
      rw [pickName, pickName, blockedNames, blockedNames, parameterless_parameterless]
  rw [hpick surface, hpick surface', h]

namespace Catalog

/-- Two catalogs declare the same types, and these differ at most in methods and constructors with
parameters. -/
def SameParameterless (c c' : Catalog) : Prop :=
  ∀ n, (c.find? n).map Declaration.parameterless = (c'.find? n).map Declaration.parameterless

namespace SameParameterless

variable {c c' : Catalog} (h : c.SameParameterless c')

include h

theorem isSome_find? (n : String) : (c.find? n).isSome = (c'.find? n).isSome := by
  have heq := congrArg Option.isSome (h n)
  rwa [Option.isSome_map, Option.isSome_map] at heq

theorem isNone_find? (n : String) : (c.find? n).isNone = (c'.find? n).isNone := by
  have heq := congrArg Option.isNone (h n)
  rwa [Option.isNone_map, Option.isNone_map] at heq

theorem enclosing? (n : String) :
    (c.enclosing? n).map Declaration.parameterless =
      (c'.enclosing? n).map Declaration.parameterless := by
  have houter : ((c.find? n).bind fun d => d.enclosing.or (outerName? n)) =
      (c'.find? n).bind fun d => d.enclosing.or (outerName? n) :=
    bind_eq_of_parameterless (h n) fun d => rfl
  rw [enclosing?_eq, enclosing?_eq, houter]
  cases (c'.find? n).bind fun d => d.enclosing.or (outerName? n) with
  | none => rfl
  | some outer => exact h outer

/-! ### Surfaces -/

theorem declarationOf (t : JavaType) :
    (t.name?.bind c.find?).map Declaration.parameterless =
      (t.name?.bind c'.find?).map Declaration.parameterless := by
  cases t.name? with
  | none => rfl
  | some n => exact h n

theorem supertypesOf (t : JavaType) : c.supertypesOf t = c'.supertypesOf t := by
  have hsupertypes : ∀ c : Catalog, c.supertypesOf t = ((t.name?.bind c.find?).map fun d =>
      d.supertypes.map (JavaType.substitute (d.bindings t.args).lookup)).getD [] := by
    intro c
    unfold Catalog.supertypesOf
    cases t.name?.bind c.find? <;> rfl
  rw [hsupertypes c, hsupertypes c', map_eq_of_parameterless (h.declarationOf t) fun d => rfl]

theorem parameterless_ownMembers (t : JavaType) :
    parameterless (c.ownMembers t) = parameterless (c'.ownMembers t) := by
  have hmembers : ∀ c : Catalog, parameterless (c.ownMembers t) =
      ((t.name?.bind c.find?).map fun d => d.parameterless.methods.map
        (Method.seenThrough (d.bindings t.args) d.qualifiedName)).getD [] := by
    intro c
    unfold ownMembers
    cases t.name?.bind c.find? with
    | none => rfl
    | some d => exact parameterless_map_seenThrough _ _ _
  rw [hmembers c, hmembers c', map_eq_of_parameterless (h.declarationOf t)]
  intro d
  have hidem : d.parameterless.parameterless.methods = d.parameterless.methods := by
    simp [Declaration.parameterless, List.filter_filter]
  rw [hidem]
  rfl

theorem declares (t : JavaType) : c.declares t = c'.declares t := by
  unfold Catalog.declares
  cases t.name? with
  | none => rfl
  | some n => exact h.isSome_find? n

/-- Both catalogs have the same walks. -/
theorem visits {pending us : List JavaType} {visited : List String}
    (hus : c.Visits pending visited us) : c'.Visits pending visited us :=
  hus.congr_catalog (P := fun _ => True) (fun _ _ _ _ => trivial)
    (fun t _ => (h.declares t).symm) (fun t _ => (h.supertypesOf t).symm) fun _ _ => trivial

/-- A type has the same members without parameters in both catalogs. -/
theorem parameterless_membersOf (t : JavaType) :
    parameterless (c.membersOf t) = parameterless (c'.membersOf t) := by
  by_cases ht : c.declares t = true
  · obtain ⟨us, hus⟩ := c.exists_visits [t, .object] []
    rw [hus.membersOf_eq ht, (h.visits hus).membersOf_eq (h.declares t ▸ ht),
      parameterless_foldl_addMember, parameterless_foldl_addMember]
    congr 1
    rw [parameterless, parameterless, List.filter_flatMap, List.filter_flatMap]
    congr 1
    funext u
    exact h.parameterless_ownMembers u
  · rw [membersOf_eq_nil ht, membersOf_eq_nil (h.declares t ▸ ht)]

/-! ### Ways to make builders -/

theorem creationMethod? (n : String) (d : Declaration) :
    c.creationMethod? n d = c'.creationMethod? n d := by
  refine bind_eq_of_parameterless (h.enclosing? n) fun outer => ?_
  simp only [any_makes_parameterless]

theorem creation? (n : String) : c.creation? n = c'.creation? n := by
  have hway : ∀ d, c.creationMethod? n d = c'.creationMethod? n d := h.creationMethod? n
  unfold Catalog.creation?
  simp only [hway]
  refine bind_eq_of_parameterless (h n) fun d => ?_
  rw [hasOpenConstructor_parameterless]
  rfl

theorem staticCall (t : JavaType) (method : String) :
    c.staticCall t method = c'.staticCall t method := by
  unfold Catalog.staticCall
  rcases none_or_some_of_parameterless (h.enclosing? (t.name?.getD "")) with
    ⟨ho, ho'⟩ | ⟨outer, outer', ho, ho', heq⟩
  · simp only [ho, ho']
  · have hname : outer.parameterless.qualifiedName = outer'.parameterless.qualifiedName :=
      congrArg Declaration.qualifiedName heq
    have hname : outer.qualifiedName = outer'.qualifiedName := hname
    simp only [ho, ho', hname]

theorem newBuilder (way : Creation) (t : JavaType) :
    c.newBuilder way t = c'.newBuilder way t := by
  cases way with
  | constructor => rfl
  | builderMethod => exact h.staticCall t "builder"
  | newBuilderMethod => exact h.staticCall t "newBuilder"

theorem builderWarnings (builder : String) :
    c.builderWarnings builder = c'.builderWarnings builder := by
  unfold Catalog.builderWarnings
  rw [h.isNone_find?, h.creation?]

/-! ### Surfaces of builders and properties -/

theorem builderSurface? (builder : String) (type : JavaType) :
    (c.builderSurface? builder type).map parameterless =
      (c'.builderSurface? builder type).map parameterless := by
  unfold Catalog.builderSurface?
  rw [h.isSome_find?]
  split
  · rw [Option.map_some, Option.map_some, h.parameterless_membersOf]
  · rfl

theorem propertiesOf (t : JavaType) (convention : Convention) :
    propertiesOf (c.membersOf t) convention = propertiesOf (c'.membersOf t) convention := by
  rw [propertiesOf_parameterless, h.parameterless_membersOf t, ← propertiesOf_parameterless]

/-! ### Plans -/

theorem planFor (preferences : Preferences) (valueType : String) (d : Declaration) :
    c.planFor preferences valueType d = c'.planFor preferences valueType d := by
  let builder := preferences.builderOf valueType
  have hpick := pickOn_eq_of_parameterless (h.builderSurface? builder (d.builderType builder))
  have hmember : planMember (c.builderSurface? builder (d.builderType builder)) =
      planMember (c'.builderSurface? builder (d.builderType builder)) := by
    funext m
    rw [planMember, hpick]
    rfl
  have hproperty : planProperty (c.builderSurface? builder (d.builderType builder)) =
      planProperty (c'.builderSurface? builder (d.builderType builder)) := by
    funext p
    rw [planProperty, hpick]
    rfl
  have hnew : ∀ w, c.newBuilder w (d.builderType builder) =
      c'.newBuilder w (d.builderType builder) := fun w => h.newBuilder w _
  unfold Catalog.planFor
  simp only [builder] at hmember hproperty hnew
  simp only [hmember, hproperty, hnew, h.isSome_find?, h.creation?, h.builderWarnings,
    h.propertiesOf]

end SameParameterless

/-- **Methods and constructors with parameters do not matter.** Catalogs that declare the same types
and differ only in such methods and constructors make the same plan for every value type, or fail in
the same way. -/
theorem plan_eq_of_sameParameterless {c c' : Catalog} (h : c.SameParameterless c')
    (preferences : Preferences) (valueType : String) :
    c.plan preferences valueType = c'.plan preferences valueType := by
  unfold plan
  rcases none_or_some_of_parameterless (h valueType) with ⟨ho, ho'⟩ | ⟨d, d', ho, ho', heq⟩
  · rw [ho, ho']
  · have hplan : c.planFor preferences valueType d = c'.planFor preferences valueType d' :=
      calc c.planFor preferences valueType d
        _ = c'.planFor preferences valueType d := h.planFor preferences valueType d
        _ = c'.planFor preferences valueType d.parameterless := rfl
        _ = c'.planFor preferences valueType d'.parameterless := by rw [heq]
        _ = c'.planFor preferences valueType d' := rfl
    rw [ho, ho']
    simp only [hplan]

/-! ### Overloads of getters -/

theorem sameParameterless_of_entries {c c' : Catalog}
    (h : c.types.entries.map (Prod.map id Declaration.parameterless) =
      c'.types.entries.map (Prod.map id Declaration.parameterless)) : c.SameParameterless c' := by
  intro n
  show (c.types.entries.lookup n).map _ = (c'.types.entries.lookup n).map _
  rw [← NameMap.lookup_map_snd, ← NameMap.lookup_map_snd, h]

/-- A value type and its builder, both with the same getter behind some other methods. -/
def overloaded (methods : List MethodEntry) (constructors : List ConstructorEntry) : Document where
  types :=
    let methods := methods ++ [{ name := "rooms", returns := "int" }]
    .ofList [
      ("a.House", { kind := .interfaceKind, methods }),
      ("a.House.Builder", { methods, constructors := constructors ++ [{}] })]

/-- Overloads of the getter and of a member of the builder are on the surface of the value type, and
the plan is the same with them. -/
theorem plan_of_overloaded :
    ∃ c c', (overloaded [] []).catalog = .ok c ∧
      (overloaded
        [{ name := "rooms", params := ["int"] },
          { name := "builder", params := ["int"], returns := "a.House.Builder"
            modifiers := [.isStatic] }]
        [{ params := ["int"] }]).catalog = .ok c' ∧
      c.SameParameterless c' ∧ c.membersOf (.plain "a.House") ≠ c'.membersOf (.plain "a.House") ∧
      ∃ p, c.plan {} "a.House" = .ok p ∧ c'.plan {} "a.House" = .ok p := by
  obtain ⟨c, hc, c', hc', hentries, hmembers, hp⟩ :=
    exists_of_eval (overloaded [] []).catalog (fun c =>
      ∃ c' ∈ (overloaded
          [{ name := "rooms", params := ["int"] },
            { name := "builder", params := ["int"], returns := "a.House.Builder"
              modifiers := [.isStatic] }]
          [{ params := ["int"] }]).catalog.toOption,
        c.types.entries.map (Prod.map id Declaration.parameterless) =
            c'.types.entries.map (Prod.map id Declaration.parameterless) ∧
          c.membersOf (.plain "a.House") ≠ c'.membersOf (.plain "a.House") ∧
          (c.plan {} "a.House").toOption.isSome = true)
      (by decide +kernel)
  have hsame := sameParameterless_of_entries hentries
  obtain ⟨p, hp⟩ := Option.isSome_iff_exists.1 hp
  have hplan := toOption_eq_some_iff.1 hp
  refine ⟨c, c', hc, toOption_eq_some_iff.1 hc', hsame, hmembers, p, hplan, ?_⟩
  rw [← plan_eq_of_sameParameterless hsame, hplan]

end Catalog

end BuilderPlanner
