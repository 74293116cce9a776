import BuilderPlanner.Proofs.Name.Alternative
import BuilderPlanner.Proofs.Surface.Parameterless
import Mathlib.Order.Bounds.Basic

/-!
# The first name that fits

* `Blocked` — a name that a generated method cannot have, because a member of that name cannot be
  overridden;
* `isLeast_firstOpen` — of the alternatives of a blocked name one is open, and the search finds the
  first: the alternatives are pairwise different, so they cannot all be among the blocked names;
* `pickName_firstFit` — a pick keeps a name that fits and otherwise takes the first alternative
  that does.
-/

namespace BuilderPlanner

/-- A name is blocked among `members` for a method with result type `returns` if one of them has
this name and is private or has another result type. -/
def Blocked (members : List Member) (returns : JavaType) (name : String) : Prop :=
  ∃ m ∈ members, m.name = name ∧ (m.visibility = .owner ∨ m.returns ≠ returns)

/-- The numbers of the alternatives of a name that are not blocked. -/
def openNumbers (members : List Member) (returns : JavaType) (name : String) : Set ℕ :=
  {n | 1 ≤ n ∧ ¬Blocked members returns (alternativeName name n)}

/-! ### Members that can be overridden -/

theorem overridable?_eq_none_iff {returns : JavaType} {m : Member} :
    m.overridable? returns = none ↔ m.visibility = .owner ∨ m.returns ≠ returns := by
  unfold Member.overridable?
  by_cases h : m.visibility = .owner ∨ m.returns ≠ returns
  · simp [h]
  · rw [if_neg h]
    split <;> simp [h]

theorem overridable?_eq_some {returns : JavaType} {m : Member}
    (h : ¬(m.visibility = .owner ∨ m.returns ≠ returns)) :
    m.overridable? returns =
      some (if m.visibility = .everywhere then .everywhere else .package) := by
  unfold Member.overridable?
  rw [if_neg h]
  split <;> rfl

/-! ### The search for an alternative -/

theorem mem_blockedNames {members : List Member} {returns : JavaType} {name : String} :
    name ∈ blockedNames members returns ↔ Blocked (parameterless members) returns name := by
  simp only [blockedNames, Blocked, List.mem_map, List.mem_filter, Option.isNone_iff_eq_none,
    overridable?_eq_none_iff]
  constructor
  · intro h
    obtain ⟨m, ⟨hm, hb⟩, hname⟩ := h
    exact ⟨m, hm, hname, hb⟩
  · intro h
    obtain ⟨m, hm, hname, hb⟩ := h
    exact ⟨m, ⟨hm, hb⟩, hname⟩

theorem length_blockedNames_le (members : List Member) (returns : JavaType) :
    (blockedNames members returns).length ≤ (parameterless members).length := by
  rw [blockedNames, List.length_map]
  exact List.length_filter_le _ _

/-- If a name is blocked together with its first alternatives, there are more blocked names than
these alternatives. -/
theorem lt_length_of_blocked {name : String} {blocked : List String} {k : ℕ} (h : name ∈ blocked)
    (hall : ∀ n, 1 ≤ n → n ≤ k → alternativeName name n ∈ blocked) : k < blocked.length := by
  let names := name :: (List.range' 1 k).map (alternativeName name)
  have hnodup : names.Nodup := by
    refine List.nodup_cons.2 ⟨?_, ?_⟩
    · intro hmem
      obtain ⟨n, -, hn⟩ := List.mem_map.1 hmem
      exact alternativeName_ne name n hn
    · refine List.Nodup.map_on ?_ List.nodup_range'
      intro m hm n hn heq
      rw [List.mem_range'_1] at hm hn
      exact (alternativeName_inj hm.1 hn.1 heq).2
  have hsub : names ⊆ blocked := by
    intro n hn
    rcases List.mem_cons.1 hn with rfl | hn
    · exact h
    · obtain ⟨i, hi, rfl⟩ := List.mem_map.1 hn
      rw [List.mem_range'_1] at hi
      exact hall i hi.1 (by omega)
  have hle := hnodup.length_le_of_subset hsub
  simp only [names, List.length_cons, List.length_map, List.length_range'] at hle
  omega

/-- The search finds the first alternative that is not blocked. -/
theorem firstOpen_spec {name : String} {blocked : List String} (h : name ∈ blocked) :
    1 ≤ firstOpen name blocked ∧ alternativeName name (firstOpen name blocked) ∉ blocked ∧
      ∀ n, 1 ≤ n → n < firstOpen name blocked → alternativeName name n ∈ blocked := by
  have hfound : ((List.range' 1 (blocked.length + 1)).find? fun n =>
      !blocked.contains (alternativeName name n)) ≠ none := by
    intro hnone
    rw [List.find?_range'_eq_none] at hnone
    have hlt := lt_length_of_blocked (k := blocked.length) h fun n h1 hn => by
      simpa using hnone n h1 (by omega)
    omega
  obtain ⟨k, hk⟩ := Option.ne_none_iff_exists'.1 hfound
  have hfirst : firstOpen name blocked = k := by rw [firstOpen, hk, Option.getD_some]
  rw [List.find?_range'_eq_some] at hk
  obtain ⟨hopen, hrange, hbefore⟩ := hk
  rw [List.mem_range'_1] at hrange
  rw [hfirst]
  refine ⟨hrange.1, by simpa using hopen, fun n h1 hn => by simpa using hbefore n h1 hn⟩

/-- Some alternative of a blocked name is open. The first open one has at most as high a number as
there are members. -/
theorem isLeast_firstOpen {members : List Member} {returns : JavaType} {name : String}
    (h : Blocked (parameterless members) returns name) :
    IsLeast (openNumbers (parameterless members) returns name)
        (firstOpen name (blockedNames members returns)) ∧
      firstOpen name (blockedNames members returns) ≤ (parameterless members).length := by
  have hname := mem_blockedNames.2 h
  obtain ⟨hpos, hopen, hbefore⟩ := firstOpen_spec hname
  refine ⟨⟨⟨hpos, fun hb => hopen (mem_blockedNames.2 hb)⟩, ?_⟩, ?_⟩
  · intro n hmem
    obtain ⟨h1, hn⟩ := hmem
    by_contra hlt
    exact hn (mem_blockedNames.1 (hbefore n h1 (by omega)))
  · have hlt := lt_length_of_blocked (k := firstOpen name (blockedNames members returns) - 1) hname
      fun n h1 hn => hbefore n h1 (by omega)
    have hle := length_blockedNames_le members returns
    omega

/-! ### The three outcomes of a pick -/

theorem pickName_free {members : List Member} {preferred : String} (returns : JavaType)
    (h : ∀ m ∈ parameterless members, m.name ≠ preferred) :
    pickName members returns preferred = ⟨preferred, .everywhere⟩ := by
  have hnone : (parameterless members).find? (·.name = preferred) = none := by
    rw [List.find?_eq_none]
    simpa using h
  rw [pickName, hnone]

/-- A member that can be overridden keeps its name, and is not narrowed if it is public. -/
theorem pickName_kept {members : List Member} {returns : JavaType} {m : Member}
    (hnodup : ((parameterless members).map Member.name).Nodup) (hm : m ∈ parameterless members)
    (h : ¬Blocked (parameterless members) returns m.name) :
    pickName members returns m.name =
      ⟨m.name, if m.visibility = .everywhere then .everywhere else .package⟩ := by
  have hfits : ¬(m.visibility = .owner ∨ m.returns ≠ returns) := fun hb => h ⟨m, hm, rfl, hb⟩
  rw [pickName, (find?_key_eq_some_iff hnodup).2 ⟨hm, rfl⟩]
  simp only [overridable?_eq_some hfits]

theorem pickName_moved {members : List Member} {returns : JavaType} {preferred : String}
    (hnodup : ((parameterless members).map Member.name).Nodup)
    (h : Blocked (parameterless members) returns preferred) :
    pickName members returns preferred =
      ⟨alternativeName preferred (firstOpen preferred (blockedNames members returns)),
        .package⟩ := by
  obtain ⟨m, hm, rfl, hb⟩ := h
  rw [pickName, (find?_key_eq_some_iff hnodup).2 ⟨hm, rfl⟩]
  simp only [overridable?_eq_none_iff.2 hb]

/-! ### Picks on a type -/

/-- **A pick is the first name that fits.** It is never blocked. A name that no member without
parameters has is taken as it is; a name that is not blocked is kept, public only if the member of
that name is public; a blocked name gives way to the first alternative that is not blocked, which
exists and is found within as many steps as there are members without parameters. -/
theorem pickName_firstFit (c : Catalog) (target returns : JavaType) (preferred : String) :
    let members := parameterless (c.membersOf target)
    let picked := c.pickName target returns preferred
    ¬Blocked members returns picked.name ∧
      ((∀ m ∈ members, m.name ≠ preferred) → picked = ⟨preferred, .everywhere⟩) ∧
      (¬Blocked members returns preferred → ∀ m ∈ members, m.name = preferred →
        picked = ⟨preferred, if m.visibility = .everywhere then .everywhere else .package⟩) ∧
      (Blocked members returns preferred →
        ∃ n, IsLeast (openNumbers members returns preferred) n ∧ n ≤ members.length ∧
          picked = ⟨alternativeName preferred n, .package⟩) := by
  intro members picked
  have hnodup := nodup_name_membersOf c target
  refine ⟨?_, pickName_free returns, ?_, ?_⟩
  · by_cases hb : Blocked members returns preferred
    · rw [show picked = _ from pickName_moved hnodup hb]
      exact (isLeast_firstOpen hb).1.1.2
    · by_cases htaken : ∃ m ∈ members, m.name = preferred
      · obtain ⟨m, hm, rfl⟩ := htaken
        rwa [show picked = _ from pickName_kept hnodup hm hb]
      · have hfree : ∀ m ∈ members, m.name ≠ preferred := fun m hm h => htaken ⟨m, hm, h⟩
        rwa [show picked = _ from pickName_free returns hfree]
  · intro hb m hm hname
    subst hname
    exact pickName_kept hnodup hm hb
  · intro hb
    obtain ⟨hleast, hle⟩ := isLeast_firstOpen hb
    exact ⟨_, hleast, hle, pickName_moved hnodup hb⟩

/-- A member of a user may look like an alternative. -/
example :
    let returns := JavaType.plain "java.lang.String"
    let members : List Member := [
      ⟨"value", "a.Builder", [], .plain "int", .everywhere, [], false⟩,
      ⟨"_valueImpl", "a.Builder", [], .plain "int", .package, [], false⟩,
      ⟨"_valueImpl2", "a.Base", [], returns, .owner, [], false⟩]
    pickName members returns "value" = ⟨"_valueImpl3", .package⟩ := by decide +kernel

end BuilderPlanner
