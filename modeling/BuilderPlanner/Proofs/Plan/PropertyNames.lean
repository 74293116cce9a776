import BuilderPlanner.Proofs.Plan.Collisions
import BuilderPlanner.Proofs.Property.Getters

/-!
# When two properties get the same name

The getters of a value type have different names. Names of properties are made of these one by one,
and two of them may become one where beginnings of getters are dropped.

* `Member.SharesName` — the three ways in which this happens;
* `name_shortProperty_eq_iff` — there is no other;
* `Catalog.nodup_propertyNames_iff` — the names of the properties of a plan are pairwise different
  if and only if it does not happen.
-/

namespace BuilderPlanner

/-! ### Getters that become one name -/

/-- Two getters whose beginnings are dropped give properties of the same name. -/
inductive Member.SharesName (a b : Member) : Prop
  /-- As `getOpen` and `isOpen`. -/
  | otherBeginning {stem : String} (ha : a.name = "get" ++ stem) (hb : b.name = "is" ++ stem)
    (hboolean : b.returns.isBoolean = true) (hstem : IsStem stem) : SharesName a b
  /-- As `getOpen` and `open`. -/
  | kept {stem : String} (ha : a.stem? = some stem) (hb : b.stem? = none)
    (h : b.name = decapitalize stem) : SharesName a b
  /-- As `getKey` and `getKey` when one of them is written with the sign for kelvin. -/
  | otherCapital {s t : String} (ha : a.stem? = some s) (hb : b.stem? = some t)
    (h : OtherCapital s t) : SharesName a b

section

variable {a b : Member}

theorem OtherCapital.ne {s t : String} (h : OtherCapital s t) : s ≠ t := by
  cases h with
  | intro hne _ _ =>
    intro heq
    exact hne (List.cons.inj (String.ofList_injective heq)).1

theorem Member.SharesName.ne (h : a.SharesName b) : a ≠ b := by
  rintro rfl
  cases h with
  | otherBeginning ha hb _ _ => exact get_append_ne_is_append (ha.symm.trans hb)
  | kept ha hb _ =>
    rw [ha] at hb
    cases hb
  | otherCapital ha hb h =>
    rw [ha] at hb
    exact h.ne (Option.some.inj hb)

theorem Member.SharesName.name_eq (h : a.SharesName b) :
    (shortProperty a).name = (shortProperty b).name := by
  rw [name_shortProperty, name_shortProperty]
  cases h with
  | @otherBeginning stem ha hb hboolean hstem =>
    have ha : a.stem? = some stem := beanSuffix?_eq_some_iff.2 ⟨.inl ha, hstem⟩
    have hb : b.stem? = some stem := beanSuffix?_eq_some_iff.2 ⟨.inr ⟨hboolean, hb⟩, hstem⟩
    rw [ha, hb]
    rfl
  | kept ha hb h =>
    rw [ha, hb]
    exact h.symm
  | otherCapital ha hb h =>
    rw [ha, hb]
    exact h.decapitalize_eq

/-- Two getters with the same stem begin with `get` and with `is`. -/
theorem sharesName_of_stem?_eq {stem : String} (ha : a.stem? = some stem)
    (hb : b.stem? = some stem) (hne : a.name ≠ b.name) : a.SharesName b ∨ b.SharesName a := by
  obtain ⟨haname, hstem⟩ := beanSuffix?_eq_some_iff.1 ha
  obtain ⟨hbname, -⟩ := beanSuffix?_eq_some_iff.1 hb
  rcases haname with haname | ⟨haboolean, haname⟩ <;>
    rcases hbname with hbname | ⟨hbboolean, hbname⟩
  · exact absurd (haname.trans hbname.symm) hne
  · exact .inl (.otherBeginning haname hbname hbboolean hstem)
  · exact .inr (.otherBeginning hbname haname haboolean hstem)
  · exact absurd (haname.trans hbname.symm) hne

theorem name_shortProperty_eq_iff (ha : isIdentifier a.name = true)
    (hb : isIdentifier b.name = true) (hne : a.name ≠ b.name) :
    (shortProperty a).name = (shortProperty b).name ↔ a.SharesName b ∨ b.SharesName a := by
  constructor
  · intro h
    rw [name_shortProperty, name_shortProperty] at h
    cases hastem : a.stem? with
    | none =>
      cases hbstem : b.stem? with
      | none =>
        rw [hastem, hbstem] at h
        exact absurd h hne
      | some t =>
        rw [hastem, hbstem] at h
        exact .inr (.kept hbstem hastem h)
    | some s =>
      cases hbstem : b.stem? with
      | none =>
        rw [hastem, hbstem] at h
        exact .inl (.kept hastem hbstem h.symm)
      | some t =>
        rw [hastem, hbstem] at h
        rcases (decapitalize_eq_iff (beanSuffix?_eq_some_iff.1 hastem).2.isCapitalized
          (beanSuffix?_eq_some_iff.1 hbstem).2.isCapitalized
          (continuesIdentifier_of_stem? ha hastem)
          (continuesIdentifier_of_stem? hb hbstem)).1 h with rfl | h
        · exact sharesName_of_stem?_eq hastem hbstem hne
        · exact .inl (.otherCapital hastem hbstem h)
  · intro h
    rcases h with h | h
    · exact h.name_eq
    · exact h.name_eq.symm

end

/-! ### Lists with keys -/

/-- A search by key finds every member of a list if and only if keys are pairwise different. -/
theorem nodup_map_iff_find? {α κ : Type} [DecidableEq κ] {key : α → κ} {l : List α}
    (hl : l.Nodup) : (l.map key).Nodup ↔ ∀ a ∈ l, l.find? (fun b => key b = key a) = some a := by
  constructor
  · intro h a ha
    exact (find?_key_eq_some_iff h).2 ⟨ha, rfl⟩
  · intro h
    rw [List.nodup_map_iff_inj_on hl]
    intro a ha b hb heq
    have hfind := h a ha
    rw [heq, h b hb] at hfind
    exact (Option.some.inj hfind).symm

/-! ### The properties of a plan -/

/-- The getters of a value type. -/
def Catalog.gettersOf (c : Catalog) (d : Declaration) : List Member :=
  (c.membersOf d.declaredType).filter Member.isGetter

/-- The name of the property of a getter with a capital, where beginnings are dropped or kept. -/
def Member.capitalizedName (dropped : Bool) (m : Member) : String :=
  if dropped then m.stem?.getD (capitalize m.name) else capitalize m.name

namespace Catalog

variable {doc : Document} {c : Catalog} {preferences : Preferences} {valueType : String}
  {d : Declaration}

theorem nodup_name_gettersOf (c : Catalog) (d : Declaration) :
    ((c.gettersOf d).map Member.name).Nodup :=
  (nodup_name_membersOf c _).sublist ((filter_isGetter_sublist _).map Member.name)

theorem isIdentifier_of_mem_gettersOf (hload : doc.catalog = .ok c) {m : Member}
    (hm : m ∈ c.gettersOf d) : isIdentifier m.name = true :=
  Document.isIdentifier_of_mem_membersOf hload (List.mem_of_mem_filter hm)

theorem map_properties_planFor {α : Type} {f : PlannedProperty → α} {g : Property → α}
    (hfg : ∀ surface q, f (planProperty surface q) = g q) :
    (c.planFor preferences valueType d).properties.map f =
      (propertiesOf (c.membersOf d.declaredType) preferences.convention).map g := by
  simp only [planFor, List.map_map, Function.comp_def, hfg]

theorem map_getter_properties_planFor (c : Catalog) (preferences : Preferences)
    (valueType : String) (d : Declaration) :
    (c.planFor preferences valueType d).properties.map (·.getter) =
      (c.gettersOf d).map Member.name := by
  rw [map_properties_planFor (g := Property.getter) fun _ _ => rfl, map_getter_propertiesOf]
  rfl

theorem map_propertiesOf {α : Type} (g : Property → α) (convention : Convention) :
    (propertiesOf (c.membersOf d.declaredType) convention).map g = (c.gettersOf d).map
      (g ∘ if convention.dropsFor (c.gettersOf d) then shortProperty else plainProperty) := by
  rw [propertiesOf, List.map_map]
  rfl

/-- Names are pairwise different unless beginnings are dropped and two getters share one. -/
theorem nodup_name_propertiesOf_iff (hload : doc.catalog = .ok c) (convention : Convention) :
    ((propertiesOf (c.membersOf d.declaredType) convention).map Property.name).Nodup ↔
      (convention.dropsFor (c.gettersOf d) = true →
        ∀ a ∈ c.gettersOf d, ∀ b ∈ c.gettersOf d, ¬a.SharesName b) := by
  have hnames := nodup_name_gettersOf c d
  rw [map_propertiesOf]
  by_cases hdrops : convention.dropsFor (c.gettersOf d) = true
  · rw [if_pos hdrops, List.nodup_map_iff_inj_on (List.Nodup.of_map _ hnames)]
    constructor
    · intro h _ a ha b hb hshares
      exact hshares.ne (h a ha b hb hshares.name_eq)
    · intro h a ha b hb heq
      by_contra hab
      -- No two getters have the same name, so different getters share one only in the three ways.
      have hne : a.name ≠ b.name := fun hname =>
        hab (List.inj_on_of_nodup_map hnames ha hb hname)
      rcases (name_shortProperty_eq_iff (isIdentifier_of_mem_gettersOf hload ha)
        (isIdentifier_of_mem_gettersOf hload hb) hne).1 heq with hshares | hshares
      · exact h hdrops a ha b hb hshares
      · exact h hdrops b hb a ha hshares
  · rw [if_neg hdrops]
    exact iff_of_true hnames fun h => absurd h hdrops

theorem map_capitalized_propertiesOf (convention : Convention) :
    (propertiesOf (c.membersOf d.declaredType) convention).map Property.capitalized =
      (c.gettersOf d).map
        (Member.capitalizedName (convention.dropsFor (c.gettersOf d))) := by
  rw [map_propertiesOf]
  apply List.map_congr_left
  intro m _
  unfold Member.capitalizedName
  split
  · exact capitalized_shortProperty m
  · rfl

/-- **When the properties of a plan have different names.** A declared value type has a plan with
one property for each of its getters, whose names are pairwise different. The names of the
properties are so as well, and a search by name finds every property, if and only if beginnings of
getters are kept or no two getters share a name without them. The setters are pairwise different if
and only if the names with a capital are. -/
theorem nodup_propertyNames_iff (hload : doc.catalog = .ok c)
    (hcheck : preferences.check = .ok ()) (hd : c.find? valueType = some d) :
    ∃ p, c.plan preferences valueType = .ok p ∧
      p.properties.map (·.getter) = (c.gettersOf d).map Member.name ∧
      (p.properties.map (·.getter)).Nodup ∧
      ((p.properties.map (·.name)).Nodup ↔
        (preferences.convention.dropsFor (c.gettersOf d) = true →
          ∀ a ∈ c.gettersOf d, ∀ b ∈ c.gettersOf d, ¬a.SharesName b)) ∧
      ((p.properties.map (·.name)).Nodup ↔ ∀ q ∈ p.properties, p.property? q.name = some q) ∧
      ((p.properties.map (·.methods.setter)).Nodup ↔
        ((c.gettersOf d).map
          (Member.capitalizedName (preferences.convention.dropsFor (c.gettersOf d)))).Nodup) := by
  have hgetters : (c.planFor preferences valueType d).properties.map (·.getter) =
      (c.gettersOf d).map Member.name := by
    rw [map_properties_planFor (g := Property.getter) fun _ _ => rfl, map_getter_propertiesOf]
    rfl
  have hnodup := hgetters ▸ nodup_name_gettersOf c d
  refine ⟨_, plan_eq_ok hcheck hd, hgetters, hnodup, ?_,
    nodup_map_iff_find? (List.Nodup.of_map _ hnodup), ?_⟩
  · rw [map_properties_planFor (g := Property.name) fun _ _ => rfl]
    exact nodup_name_propertiesOf_iff hload preferences.convention
  · have hsetters : (c.planFor preferences valueType d).properties.map (·.methods.setter) =
        ((c.gettersOf d).map (Member.capitalizedName
          (preferences.convention.dropsFor (c.gettersOf d)))).map ("set" ++ ·) := by
      rw [map_properties_planFor (g := ("set" ++ ·) ∘ Property.capitalized) fun _ _ => rfl,
        ← map_capitalized_propertiesOf, List.map_map]
    rw [hsetters]
    exact List.nodup_map_iff fun _ _ h => (String.append_right_inj "set").1 h

/-! ### Two getters -/

/-- An interface with two abstract methods. -/
def twoGetters (a b : MethodEntry) : Document where
  types := .ofList [("a.House", { kind := .interfaceKind, methods := [a, b] })]

/-- The beginnings of both getters are dropped, and both properties are called `open`. -/
theorem getOpen_and_isOpen :
    ∃ c, (twoGetters { name := "getOpen", returns := "java.lang.String" }
        { name := "isOpen", returns := "boolean" }).catalog = .ok c ∧
      ({} : Preferences).check = .ok () ∧ (c.find? "a.House").isSome = true ∧
      ∃ p, c.plan {} "a.House" = .ok p ∧ ¬(p.properties.map (·.name)).Nodup ∧
        ¬(p.properties.map (·.methods.setter)).Nodup := by
  obtain ⟨c, hc, hd, p, hp, hnames, hsetters⟩ := exists_of_eval
    (twoGetters { name := "getOpen", returns := "java.lang.String" }
      { name := "isOpen", returns := "boolean" }).catalog
    (fun c => (c.find? "a.House").isSome = true ∧ ∃ p ∈ (c.plan {} "a.House").toOption,
      ¬(p.properties.map (·.name)).Nodup ∧ ¬(p.properties.map (·.methods.setter)).Nodup)
    (by decide +kernel)
  exact ⟨c, hc, check_default, hd, p, toOption_eq_some_iff.1 hp, hnames, hsetters⟩

/-- Stems of different letters. -/
theorem getRooms_and_isOpen :
    ∃ c, (twoGetters { name := "getRooms", returns := "int" }
        { name := "isOpen", returns := "boolean" }).catalog = .ok c ∧
      ∃ p, c.plan {} "a.House" = .ok p ∧ p.properties.map (·.name) = ["rooms", "open"] ∧
        ∀ q ∈ p.properties, p.property? q.name = some q := by
  obtain ⟨c, hc, d, hd, hp⟩ := exists_of_eval
    (twoGetters { name := "getRooms", returns := "int" }
      { name := "isOpen", returns := "boolean" }).catalog
    (fun c => ∃ d ∈ c.find? "a.House", (c.plan {} "a.House").toOption.map
      (·.properties.map (·.name)) = some ["rooms", "open"])
    (by decide +kernel)
  obtain ⟨p, hplan, -, -, -, hfind, -⟩ := nodup_propertyNames_iff hc check_default hd
  rw [hplan] at hp
  have hnames : p.properties.map (·.name) = ["rooms", "open"] := Option.some.inj hp
  refine ⟨c, hc, p, hplan, hnames, hfind.1 ?_⟩
  rw [hnames]
  decide

end Catalog

end BuilderPlanner
