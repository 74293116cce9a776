import BuilderPlanner.Plan.Basic
import BuilderPlanner.Proofs.Catalog.Loaded
import BuilderPlanner.Proofs.Pick.FirstFit
import BuilderPlanner.Proofs.Property.Conventions

/-!
# When two members of a builder get the same name

Every name is picked on its own, among the members of the builder of the user alone. No pick knows
of another, so two generated members may end up with the same name.

* `Keeps`, `MovedTo` — the two outcomes of a pick on a builder;
* `Meet` — how two wanted names become one;
* `pickOn_name_eq_iff` — two picks agree if and only if they meet;
* `Catalog.nodup_pickedNames_iff` — the names of a plan are pairwise different if and only if no two
  wanted names meet.
-/

namespace BuilderPlanner

/-! ### Outcomes of picks -/

/-- No member of the builder of the user blocks a wanted name, which comes with its result type. -/
def Keeps (surface : Option (List Member)) (wanted : String × JavaType) : Prop :=
  ∀ members, surface = some members → ¬Blocked (parameterless members) wanted.2 wanted.1

/-- A member of the builder of the user blocks a wanted name, and `n` is the number of the first
alternative that is open. -/
def MovedTo (surface : Option (List Member)) (wanted : String × JavaType) (n : ℕ) : Prop :=
  ∃ members, surface = some members ∧ Blocked (parameterless members) wanted.2 wanted.1 ∧
    IsLeast (openNumbers (parameterless members) wanted.2 wanted.1) n

/-- Two wanted names become one. -/
inductive Meet (surface : Option (List Member)) : String × JavaType → String × JavaType → Prop
  /-- The same name, kept for both. -/
  | kept {a b : String × JavaType} (ha : Keeps surface a) (hb : Keeps surface b) (h : a.1 = b.1) :
      Meet surface a b
  /-- The same name, moved to the same alternative for both. -/
  | moved {a b : String × JavaType} {n : ℕ} (ha : MovedTo surface a n) (hb : MovedTo surface b n)
      (h : a.1 = b.1) : Meet surface a b
  /-- The first is moved to the name of the second. -/
  | movedOnto {a b : String × JavaType} {n : ℕ} (ha : MovedTo surface a n) (hb : Keeps surface b)
      (h : alternativeName a.1 n = b.1) : Meet surface a b
  /-- The second is moved to the name of the first. -/
  | metBy {a b : String × JavaType} {n : ℕ} (ha : Keeps surface a) (hb : MovedTo surface b n)
      (h : a.1 = alternativeName b.1 n) : Meet surface a b

section

variable {surface : Option (List Member)} {a b : String × JavaType} {n : ℕ}

theorem MovedTo.one_le (ha : MovedTo surface a n) : 1 ≤ n := by
  obtain ⟨members, -, -, hleast⟩ := ha
  exact hleast.1.1

theorem keeps_or_movedTo (surface : Option (List Member)) (a : String × JavaType) :
    Keeps surface a ∨ ∃ n, MovedTo surface a n := by
  by_cases hkeeps : Keeps surface a
  · exact .inl hkeeps
  · simp only [Keeps, not_forall, not_not] at hkeeps
    obtain ⟨members, hsurface, hblocked⟩ := hkeeps
    exact .inr ⟨_, members, hsurface, hblocked, (isLeast_firstOpen hblocked).1⟩

/-! ### Names of picks -/

variable (hnodup : ∀ members, surface = some members →
  ((parameterless members).map Member.name).Nodup)

include hnodup in
theorem Keeps.pickOn_name (ha : Keeps surface a) : (pickOn surface a.2 a.1).name = a.1 := by
  cases surface with
  | none => rfl
  | some members =>
    rw [pickOn]
    by_cases htaken : ∃ m ∈ parameterless members, m.name = a.1
    · obtain ⟨m, hm, hname⟩ := htaken
      have hfree := ha members rfl
      rw [← hname] at hfree ⊢
      rw [pickName_kept (hnodup members rfl) hm hfree]
    · rw [pickName_free a.2 fun m hm hname => htaken ⟨m, hm, hname⟩]

include hnodup in
theorem MovedTo.pickOn_name (ha : MovedTo surface a n) :
    (pickOn surface a.2 a.1).name = alternativeName a.1 n := by
  obtain ⟨members, rfl, hblocked, hleast⟩ := ha
  rw [pickOn, pickName_moved (hnodup members rfl) hblocked,
    hleast.unique (isLeast_firstOpen hblocked).1]

include hnodup in
/-- Two picks agree if and only if they meet. An alternative tells its name and its number, so two
moved names meet only if they are the same. -/
theorem pickOn_name_eq_iff :
    (pickOn surface a.2 a.1).name = (pickOn surface b.2 b.1).name ↔ Meet surface a b := by
  constructor
  · intro h
    rcases keeps_or_movedTo surface a with ha | ⟨m, ha⟩ <;>
      rcases keeps_or_movedTo surface b with hb | ⟨n, hb⟩
    · rw [ha.pickOn_name hnodup, hb.pickOn_name hnodup] at h
      exact .kept ha hb h
    · rw [ha.pickOn_name hnodup, hb.pickOn_name hnodup] at h
      exact .metBy ha hb h
    · rw [ha.pickOn_name hnodup, hb.pickOn_name hnodup] at h
      exact .movedOnto ha hb h
    · rw [ha.pickOn_name hnodup, hb.pickOn_name hnodup] at h
      obtain ⟨hname, rfl⟩ := alternativeName_inj ha.one_le hb.one_le h
      exact .moved ha hb hname
  · intro h
    cases h with
    | kept ha hb h => rw [ha.pickOn_name hnodup, hb.pickOn_name hnodup, h]
    | moved ha hb h => rw [ha.pickOn_name hnodup, hb.pickOn_name hnodup, h]
    | movedOnto ha hb h => rw [ha.pickOn_name hnodup, hb.pickOn_name hnodup, h]
    | metBy ha hb h => rw [ha.pickOn_name hnodup, hb.pickOn_name hnodup, h]

end

/-! ### The getters of a type -/

theorem map_getter_propertiesOf (members : List Member) (convention : Convention) :
    (propertiesOf members convention).map Property.getter =
      (members.filter Member.isGetter).map Member.name := by
  have hgetters := congrArg (List.map Prod.fst) (map_getter_type_propertiesOf members convention)
  rwa [List.map_map, List.map_map] at hgetters

theorem filter_isGetter_sublist (members : List Member) :
    (members.filter Member.isGetter).Sublist (parameterless members) := by
  apply List.monotone_filter_right members
  intro m hm
  simp only [Member.isGetter, Bool.and_eq_true] at hm
  exact hm.1.1.1.2

/-- No two properties of a type have the same getter. -/
theorem nodup_getter_propertiesOf (c : Catalog) (t : JavaType) (convention : Convention) :
    ((propertiesOf (c.membersOf t) convention).map Property.getter).Nodup := by
  rw [map_getter_propertiesOf]
  exact (nodup_name_membersOf c t).sublist ((filter_isGetter_sublist _).map Member.name)

/-! ### The names of a plan -/

namespace Plan

/-- The names that the members of the builder itself want, with what was picked. -/
def memberPicks (p : Plan) : List (String × PickedName) :=
  p.members.map fun m => (m.preferred, m.picked)

/-- The names that the getters of the builder want, with what was picked. -/
def getterPicks (p : Plan) : List (String × PickedName) :=
  p.properties.map fun q => (q.getter, q.builderGetter)

/-- The names that were picked for the members of a builder and for its getters. -/
def pickedNames (p : Plan) : List String :=
  p.members.map (·.picked.name) ++ p.properties.map (·.builderGetter.name)

theorem map_name_picks (p : Plan) :
    (p.memberPicks ++ p.getterPicks).map (·.2.name) = p.pickedNames := by
  rw [memberPicks, getterPicks, List.map_append, List.map_map, List.map_map]
  rfl

end Plan

/-- The names that the members of a builder itself want. -/
def builderMemberNames : List String := ["build", "buildPartial", "clear"]

namespace Catalog

/-- The names that are wanted on the builder of a value type, with their result types. -/
def wantedNames (c : Catalog) (preferences : Preferences) (valueType : String) (d : Declaration) :
    List (String × JavaType) :=
  builderMembers d.declaredType (d.builderType (preferences.builderOf valueType)) ++
    (propertiesOf (c.membersOf d.declaredType) preferences.convention).map
      fun q => (q.getter, q.type)

/-- The members of the builder of the user for a value type. -/
def userBuilder? (c : Catalog) (preferences : Preferences) (valueType : String) (d : Declaration) :
    Option (List Member) :=
  c.builderSurface? (preferences.builderOf valueType)
    (d.builderType (preferences.builderOf valueType))

theorem nodup_of_userBuilder? {c : Catalog} {preferences : Preferences} {valueType : String}
    {d : Declaration} {members : List Member}
    (h : c.userBuilder? preferences valueType d = some members) :
    ((parameterless members).map Member.name).Nodup := by
  unfold userBuilder? builderSurface? at h
  split at h
  · obtain rfl := Option.some.inj h
    exact nodup_name_membersOf c _
  · cases h

theorem plan_eq_ok {c : Catalog} {preferences : Preferences} {valueType : String} {d : Declaration}
    (hcheck : preferences.check = .ok ()) (hd : c.find? valueType = some d) :
    c.plan preferences valueType = .ok (c.planFor preferences valueType d) := by
  rw [plan, hcheck, hd]
  rfl

/-- Every wanted name comes with what is picked for it on the builder of the user. -/
theorem picks_planFor (c : Catalog) (preferences : Preferences) (valueType : String)
    (d : Declaration) :
    (c.planFor preferences valueType d).memberPicks ++
        (c.planFor preferences valueType d).getterPicks =
      (c.wantedNames preferences valueType d).map
        fun a => (a.1, pickOn (c.userBuilder? preferences valueType d) a.2 a.1) := by
  rw [Plan.memberPicks, Plan.getterPicks, wantedNames, List.map_append, planFor, List.map_map,
    List.map_map, List.map_map]
  rfl

theorem pickedNames_planFor (c : Catalog) (preferences : Preferences) (valueType : String)
    (d : Declaration) :
    (c.planFor preferences valueType d).pickedNames =
      (c.wantedNames preferences valueType d).map
        fun a => (pickOn (c.userBuilder? preferences valueType d) a.2 a.1).name := by
  rw [← Plan.map_name_picks, picks_planFor, List.map_map]
  rfl

theorem map_fst_builderMembers (valueType builder : JavaType) :
    (builderMembers valueType builder).map Prod.fst = builderMemberNames := rfl

/-- Wanted names are pairwise different as soon as no property is called like a member of the
builder itself. -/
theorem nodup_fst_wantedNames {c : Catalog} {preferences : Preferences} (valueType : String)
    {d : Declaration}
    (h : ∀ q ∈ propertiesOf (c.membersOf d.declaredType) preferences.convention,
      q.getter ∉ builderMemberNames) :
    ((c.wantedNames preferences valueType d).map Prod.fst).Nodup := by
  rw [wantedNames, List.map_append, map_fst_builderMembers, List.map_map, List.nodup_append]
  refine ⟨by decide, nodup_getter_propertiesOf c _ _, ?_⟩
  intro name hname getter hgetter heq
  obtain ⟨q, hq, rfl⟩ := List.mem_map.1 hgetter
  have hgetter : name = q.getter := heq
  exact h q hq (hgetter ▸ hname)

/-- Two names that differ meet only if one of them is an alternative of the other. -/
theorem not_meet {surface : Option (List Member)} {a b : String × JavaType} (hne : a.1 ≠ b.1)
    (hab : ∀ n, 1 ≤ n → a.1 ≠ alternativeName b.1 n)
    (hba : ∀ n, 1 ≤ n → b.1 ≠ alternativeName a.1 n) : ¬Meet surface a b := by
  intro h
  cases h with
  | kept _ _ h => exact hne h
  | moved _ _ h => exact hne h
  | movedOnto ha _ h => exact hba _ ha.one_le h.symm
  | metBy _ hb h => exact hab _ hb.one_le h

/-- **When the names of a plan are pairwise different.** A declared value type has a plan, and the
names in it are pairwise different if and only if no two wanted names meet. This holds in particular
if no property is called like a member of the builder itself and no wanted name is an alternative of
a wanted name. -/
theorem nodup_pickedNames_iff {c : Catalog} {preferences : Preferences} {valueType : String}
    {d : Declaration} (hcheck : preferences.check = .ok ()) (hd : c.find? valueType = some d) :
    ∃ p, c.plan preferences valueType = .ok p ∧
      (p.pickedNames.Nodup ↔ (c.wantedNames preferences valueType d).Pairwise
        fun a b => ¬Meet (c.userBuilder? preferences valueType d) a b) ∧
      ((∀ q ∈ propertiesOf (c.membersOf d.declaredType) preferences.convention,
          q.getter ∉ builderMemberNames) →
        (∀ a ∈ c.wantedNames preferences valueType d,
          ∀ b ∈ c.wantedNames preferences valueType d,
            ∀ n, 1 ≤ n → a.1 ≠ alternativeName b.1 n) →
        p.pickedNames.Nodup) := by
  have hiff : (c.planFor preferences valueType d).pickedNames.Nodup ↔
      (c.wantedNames preferences valueType d).Pairwise
        fun a b => ¬Meet (c.userBuilder? preferences valueType d) a b := by
    rw [pickedNames_planFor, List.Nodup, List.pairwise_map]
    apply List.Pairwise.iff
    intro a b
    rw [Ne, pickOn_name_eq_iff fun members h => nodup_of_userBuilder? h]
  refine ⟨_, plan_eq_ok hcheck hd, hiff, ?_⟩
  intro hgetters halternatives
  have hfst := nodup_fst_wantedNames valueType hgetters
  rw [List.Nodup, List.pairwise_map] at hfst
  refine hiff.2 (hfst.imp_of_mem ?_)
  intro a b ha hb hne
  exact not_meet hne (halternatives a ha b hb) (halternatives b hb a ha)

/-! ### A value type with one property -/

/-- An interface with one abstract method. -/
def oneGetter (getter : String) : Document where
  types := .ofList
    [("a.House", { kind := .interfaceKind, methods := [{ name := getter, returns := "int" }] })]

/-- The default preferences pass their own check. -/
theorem check_default : ({} : Preferences).check = .ok () := by decide +kernel

/-- A property that is called like a member of the builder itself gets the name of that member. -/
theorem getter_named_build :
    ∃ c, (oneGetter "build").catalog = .ok c ∧ ({} : Preferences).check = .ok () ∧
      ∃ p, c.plan {} "a.House" = .ok p ∧ ¬p.pickedNames.Nodup := by
  obtain ⟨c, hc, hp⟩ := exists_of_eval (oneGetter "build").catalog
    (fun c => ∃ p ∈ (c.plan {} "a.House").toOption, ¬p.pickedNames.Nodup) (by decide +kernel)
  obtain ⟨p, hp, hnodup⟩ := hp
  refine ⟨c, hc, check_default, p, ?_, hnodup⟩
  exact toOption_eq_some_iff.1 hp

/-- A name that does not begin with an underscore is no alternative. -/
theorem ne_alternativeName {name : String} (h : name.toList.head? ≠ some '_') (q : String)
    (n : ℕ) : name ≠ alternativeName q n := by
  rintro rfl
  apply h
  rw [toList_alternativeName]
  rfl

theorem getter_named_rooms :
    ∃ c, (oneGetter "rooms").catalog = .ok c ∧
      ∃ p, c.plan {} "a.House" = .ok p ∧ p.pickedNames.Nodup := by
  obtain ⟨c, hc, d, hd, hgetters, hnames⟩ := exists_of_eval (oneGetter "rooms").catalog
    (fun c => ∃ d ∈ c.find? "a.House",
      (∀ q ∈ propertiesOf (c.membersOf d.declaredType) .auto, q.getter ∉ builderMemberNames) ∧
      ∀ a ∈ c.wantedNames {} "a.House" d, a.1.toList.head? ≠ some '_') (by decide +kernel)
  obtain ⟨p, hp, -, hnodup⟩ := nodup_pickedNames_iff check_default hd
  exact ⟨c, hc, p, hp, hnodup hgetters fun a ha b _ n _ => ne_alternativeName (hnames a ha) b.1 n⟩

end Catalog

end BuilderPlanner
