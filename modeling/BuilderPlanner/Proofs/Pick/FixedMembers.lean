import BuilderPlanner.Proofs.Pick.Regeneration

/-!
# Picks that land on a member

A picked name is free, or it is the name of a member that the generated method then overrides. Such
a member is not private and has the wanted result, but nothing else is asked of it: a static or
final one is taken like any other.

* `Member.IsFixed` — members that cannot be overridden, whoever sees them;
* `name_eq_name_pickName_iff` — what is asked of a member that a pick lands on;
* `pickName_withModifiers` — what is not asked of it;
* `Catalog.pickName_fixed_iff` — when a pick lands on a member that cannot be overridden.
-/

namespace BuilderPlanner

/-- A member of the type and not of its instances, or one that no subclass may write again. -/
def Member.IsFixed (m : Member) : Prop := .isStatic ∈ m.modifiers ∨ .isFinal ∈ m.modifiers

instance (m : Member) : Decidable m.IsFixed := inferInstanceAs (Decidable (_ ∨ _))

/-! ### What is asked of a member -/

section

variable {members : List Member} {returns : JavaType} {preferred : String}

theorem name_pickName_eq_iff (h : (members.map Member.signature).Nodup) {name : String} :
    (pickName members returns preferred).name = name ↔
      ¬Blocked (parameterless members) returns preferred ∧ name = preferred ∨
        Blocked (parameterless members) returns preferred ∧
          ∃ n, IsLeast (openNumbers (parameterless members) returns preferred) n ∧
            name = alternativeName preferred n := by
  by_cases hb : Blocked (parameterless members) returns preferred
  · obtain ⟨hleast, -⟩ := isLeast_firstOpen hb
    rw [pickName_moved (nodup_name_parameterless h) hb]
    constructor
    · intro hname
      exact .inr ⟨hb, _, hleast, hname.symm⟩
    · rintro (⟨hnot, -⟩ | ⟨-, n, hn, rfl⟩)
      · exact absurd hb hnot
      · rw [hn.unique hleast]
  · rw [name_pickName h hb]
    constructor
    · intro hname
      exact .inl ⟨hb, hname.symm⟩
    · rintro (⟨-, rfl⟩ | ⟨hblocked, -⟩)
      · rfl
      · exact absurd hblocked hb

theorem not_blocked_name_pickName (h : (members.map Member.signature).Nodup) :
    ¬Blocked (parameterless members) returns (pickName members returns preferred).name := by
  rcases (name_pickName_eq_iff h).1 rfl with ⟨hb, hname⟩ | ⟨-, n, hn, hname⟩
  · rwa [hname]
  · rw [hname]
    exact hn.1.2

/-- Where no two members share a name, each blocks its own unless it fits. -/
theorem not_blocked_iff {ms : List Member} (hnodup : (ms.map Member.name).Nodup) {m : Member}
    (hm : m ∈ ms) :
    ¬Blocked ms returns m.name ↔ m.visibility ≠ .owner ∧ m.returns = returns := by
  constructor
  · intro h
    have hfits : ¬(m.visibility = .owner ∨ m.returns ≠ returns) := fun hb => h ⟨m, hm, rfl, hb⟩
    rwa [not_or, not_not] at hfits
  · rintro ⟨hvisible, hreturns⟩ ⟨m', hm', hname, hb⟩
    obtain rfl := eq_of_name_eq hnodup hm' hm hname
    exact hb.elim hvisible fun hne => hne hreturns

/-- A pick lands on the members that fit and have the wanted name or, if this is blocked, the first
alternative that is open. -/
theorem name_eq_name_pickName_iff (h : (members.map Member.signature).Nodup) {m : Member}
    (hm : m ∈ parameterless members) :
    m.name = (pickName members returns preferred).name ↔
      m.visibility ≠ .owner ∧ m.returns = returns ∧
        (m.name = preferred ∨ Blocked (parameterless members) returns preferred ∧
          ∃ n, IsLeast (openNumbers (parameterless members) returns preferred) n ∧
            m.name = alternativeName preferred n) := by
  have hfits : ¬Blocked (parameterless members) returns m.name ↔ _ :=
    not_blocked_iff (nodup_name_parameterless h) hm
  rw [← and_assoc, ← hfits]
  constructor
  · intro hname
    refine ⟨hname ▸ not_blocked_name_pickName h, ?_⟩
    exact ((name_pickName_eq_iff h).1 hname.symm).imp_left And.right
  · rintro ⟨hopen, hpreferred | hmoved⟩
    · exact ((name_pickName_eq_iff h).2 (.inl ⟨hpreferred ▸ hopen, hpreferred⟩)).symm
    · exact ((name_pickName_eq_iff h).2 (.inr hmoved)).symm

/-! ### What is not asked -/

/-- The member with other modifiers. What is known of its access stays. -/
def Member.withModifiers (f : Member → List Modifier) (m : Member) : Member :=
  { m with modifiers := f m }

/-- Modifiers do not bear on a pick, beyond the access that they give. -/
theorem pickName_withModifiers (f : Member → List Modifier) :
    pickName (members.map (Member.withModifiers f)) returns preferred =
      pickName members returns preferred := by
  have hparameterless : parameterless (members.map (Member.withModifiers f)) =
      (parameterless members).map (Member.withModifiers f) := List.filter_map
  have hblocked : blockedNames (members.map (Member.withModifiers f)) returns =
      blockedNames members returns := by
    rw [blockedNames, hparameterless, List.filter_map, List.map_map]
    rfl
  have hfind : (parameterless (members.map (Member.withModifiers f))).find? (·.name = preferred) =
      ((parameterless members).find? (·.name = preferred)).map (Member.withModifiers f) := by
    rw [hparameterless, List.find?_map]
    rfl
  rw [pickName, pickName, hblocked, hfind]
  cases (parameterless members).find? (·.name = preferred) with
  | none => rfl
  | some m => rfl

end

/-! ### When a pick lands on a fixed member -/

namespace Catalog

/-- **When a pick lands on a member that cannot be overridden.** A member that has a picked name is
not private and has the wanted result. It is static or final exactly if such a member has the wanted
name, or this is blocked and such a member has the name of the first alternative that is open: the
modifiers of members do not bear on a pick. -/
theorem pickName_fixed_iff (c : Catalog) (target returns : JavaType) (preferred : String) :
    let members := parameterless (c.membersOf target)
    let picked := c.pickName target returns preferred
    (∀ e ∈ members, e.name = picked.name → e.visibility ≠ .owner ∧ e.returns = returns) ∧
      ((∃ e ∈ members, e.name = picked.name ∧ e.IsFixed) ↔
        ∃ e ∈ members, e.IsFixed ∧ e.visibility ≠ .owner ∧ e.returns = returns ∧
          (e.name = preferred ∨ Blocked members returns preferred ∧
            ∃ n, IsLeast (openNumbers members returns preferred) n ∧
              e.name = alternativeName preferred n)) ∧
      ∀ f, BuilderPlanner.pickName ((c.membersOf target).map (Member.withModifiers f)) returns
        preferred = picked := by
  intro members picked
  have hlands : ∀ e ∈ members, e.name = picked.name ↔ e.visibility ≠ .owner ∧ e.returns = returns ∧
      (e.name = preferred ∨ Blocked members returns preferred ∧
        ∃ n, IsLeast (openNumbers members returns preferred) n ∧
          e.name = alternativeName preferred n) :=
    fun e he => name_eq_name_pickName_iff (c.nodup_signature_membersOf target) he
  refine ⟨?_, ?_, fun f => pickName_withModifiers f⟩
  · intro e he hname
    obtain ⟨hvisible, hreturns, -⟩ := (hlands e he).1 hname
    exact ⟨hvisible, hreturns⟩
  · refine exists_congr fun e => and_congr_right fun he => ?_
    rw [hlands e he, and_comm]

/-- A builder that has a final method. -/
def finalBuild : Document where
  types := .ofList [
    ("a.House", { kind := .interfaceKind }),
    ("a.House.Builder",
      { methods := [{ name := "build", returns := "a.House",
                      modifiers := [.publicAccess, .isFinal] }] })]

/-- Its name is picked for the method that is generated there. -/
theorem build_lands_on_final :
    ∃ c, finalBuild.catalog = .ok c ∧
      ∃ e ∈ parameterless (c.membersOf (.plain "a.House.Builder")),
        e.name = (c.pickName (.plain "a.House.Builder") (.plain "a.House") "build").name ∧
          .isFinal ∈ e.modifiers :=
  exists_of_eval finalBuild.catalog (fun c =>
    ∃ e ∈ parameterless (c.membersOf (.plain "a.House.Builder")),
      e.name = (c.pickName (.plain "a.House.Builder") (.plain "a.House") "build").name ∧
        .isFinal ∈ e.modifiers) (by decide +kernel)

end Catalog

end BuilderPlanner
