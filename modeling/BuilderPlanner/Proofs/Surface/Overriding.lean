import BuilderPlanner.Proofs.Catalog.Loaded
import BuilderPlanner.Proofs.Surface.Parameterless
import BuilderPlanner.Proofs.Surface.Precedence

/-!
# Which declaration of a method is kept

Several types above one may declare a method of the same name without parameters. A surface keeps
the declaration that the walk comes to first, be it the most derived one or not.

* `Catalog.HasOwnMethod` — a type declares a method of a name without parameters;
* `Catalog.declaredIn_eq_iff` — the declaration that is kept is that of the first visited type;
* `Catalog.overridden_iff_route_before` — without cycles, a declaration gives way to another if and
  only if a route to some declaration comes before all routes to this one.
-/

namespace BuilderPlanner

namespace Catalog

/-- The declaration of a name has a method of a name without parameters. -/
def HasOwnMethod (c : Catalog) (owner name : String) : Prop :=
  ∃ d, c.find? owner = some d ∧ ∃ m ∈ d.methods, m.name = name ∧ m.params = []

/-- Of the types whose names have a property, the walk over a type visits one of the name `n`
first. -/
def FirstVisited (c : Catalog) (t : JavaType) (P : String → Prop) (n : String) : Prop :=
  ∃ us, c.Visits [t, .object] [] us ∧ FirstNamed P us n

/-! ### The methods of one visited type -/

theorem HasOwnMethod.ne_none {c : Catalog} {owner name : String} (h : c.HasOwnMethod owner name) :
    c.find? owner ≠ none := by
  obtain ⟨d, hd, -⟩ := h
  rw [hd]
  exact Option.some_ne_none d

theorem signature_seenThrough {b : Bindings} {owner name : String} {m : Method} :
    (m.seenThrough b owner).signature = (name, []) ↔ m.name = name ∧ m.params = [] := by
  rw [signature_eq_iff, Method.seenThrough, List.map_eq_nil_iff]

theorem find?_ownMembers_isSome {c : Catalog} {u : JavaType} {name : String} :
    ((c.ownMembers u).find? (·.signature = (name, []))).isSome = true ↔
      ∃ k, u.name? = some k ∧ c.HasOwnMethod k name := by
  rw [List.find?_isSome]
  constructor
  · intro h
    obtain ⟨m, hm, hsig⟩ := h
    unfold ownMembers at hm
    split at hm
    · exact absurd hm List.not_mem_nil
    · rename_i d hd
      obtain ⟨k, hk, hd⟩ := Option.bind_eq_some_iff.1 hd
      obtain ⟨m', hm', rfl⟩ := List.mem_map.1 hm
      exact ⟨k, hk, d, hd, m', hm', signature_seenThrough.1 (of_decide_eq_true hsig)⟩
  · intro h
    obtain ⟨k, hk, d, hd, m, hm, hown⟩ := h
    rw [ownMembers_eq hk hd]
    exact ⟨_, List.mem_map_of_mem hm, decide_eq_true (signature_seenThrough.2 hown)⟩

theorem find?_ownMembers_eq_none {c : Catalog} {u : JavaType} {name : String} :
    (c.ownMembers u).find? (·.signature = (name, [])) = none ↔
      ∀ k, u.name? = some k → ¬c.HasOwnMethod k name := by
  rw [← Option.not_isSome_iff_eq_none, find?_ownMembers_isSome]
  exact ⟨fun h k hk hown => h ⟨k, hk, hown⟩, fun h ⟨k, hk, hown⟩ => h k hk hown⟩

/-- The methods of a type are declared under its name. -/
theorem declaredIn_of_mem_ownMembers {c : Catalog}
    (hc : ∀ k d, c.find? k = some d → d.qualifiedName = k) {u : JavaType} {m : Member}
    (hm : m ∈ c.ownMembers u) : u.name? = some m.declaredIn := by
  unfold ownMembers at hm
  split at hm
  · exact absurd hm List.not_mem_nil
  · rename_i d hd
    obtain ⟨k, hk, hd⟩ := Option.bind_eq_some_iff.1 hd
    obtain ⟨m', -, rfl⟩ := List.mem_map.1 hm
    rw [hk, Method.seenThrough, hc k d hd]

/-! ### The first visited type -/

variable {c : Catalog} {t : JavaType} {us : List JavaType} {name : String}

theorem mem_parameterless_membersOf_iff (ht : c.declares t = true)
    (hus : c.Visits [t, .object] [] us) {m : Member} :
    m ∈ parameterless (c.membersOf t) ∧ m.name = name ↔
      ∃ before u after, us = before ++ u :: after ∧
        (c.ownMembers u).find? (·.signature = (name, [])) = some m ∧
        ∀ v ∈ before, (c.ownMembers v).find? (·.signature = (name, [])) = none := by
  rw [mem_parameterless_iff_find? (c.nodup_signature_membersOf t), hus.find?_membersOf ht,
    List.find?_flatMap, List.findSome?_eq_some_iff]

/-- The declaration that is kept is that of the first visited type. -/
theorem firstNamed_declaredIn (hc : ∀ k d, c.find? k = some d → d.qualifiedName = k)
    (ht : c.declares t = true) (hus : c.Visits [t, .object] [] us) {m : Member}
    (hm : m ∈ parameterless (c.membersOf t)) (hname : m.name = name) :
    FirstNamed (c.HasOwnMethod · name) us m.declaredIn := by
  obtain ⟨before, u, after, heq, hfind, hbefore⟩ :=
    (mem_parameterless_membersOf_iff ht hus).1 ⟨hm, hname⟩
  have hu := declaredIn_of_mem_ownMembers hc (List.mem_of_find?_eq_some hfind)
  refine ⟨before, u, after, heq, fun v hv => find?_ownMembers_eq_none.1 (hbefore v hv), hu, ?_⟩
  obtain ⟨k, hk, hown⟩ := find?_ownMembers_isSome.1 (Option.isSome_of_eq_some hfind)
  rwa [Option.some.inj (hu.symm.trans hk)]

/-- The declaration of the first visited type is kept. -/
theorem FirstNamed.exists_member (hc : ∀ k d, c.find? k = some d → d.qualifiedName = k)
    (ht : c.declares t = true) (hus : c.Visits [t, .object] [] us) {n : String}
    (h : FirstNamed (c.HasOwnMethod · name) us n) :
    ∃ m ∈ parameterless (c.membersOf t), m.name = name ∧ m.declaredIn = n := by
  obtain ⟨before, u, after, heq, hbefore, hu, hown⟩ := h
  obtain ⟨m, hm⟩ := Option.isSome_iff_exists.1 (find?_ownMembers_isSome.2 ⟨n, hu, hown⟩)
  obtain ⟨hmem, hname⟩ := (mem_parameterless_membersOf_iff ht hus).2
    ⟨before, u, after, heq, hm, fun v hv => find?_ownMembers_eq_none.2 (hbefore v hv)⟩
  have hdeclared := declaredIn_of_mem_ownMembers hc (List.mem_of_find?_eq_some hm)
  exact ⟨m, hmem, hname, Option.some.inj (hdeclared.symm.trans hu)⟩

theorem declaredIn_eq_iff (hc : ∀ k d, c.find? k = some d → d.qualifiedName = k)
    (ht : c.declares t = true) {m : Member} (hm : m ∈ parameterless (c.membersOf t)) {y : String} :
    m.declaredIn = y ↔ c.FirstVisited t (c.HasOwnMethod · m.name) y := by
  constructor
  · rintro rfl
    obtain ⟨us, hus⟩ := c.exists_visits [t, .object] []
    exact ⟨us, hus, firstNamed_declaredIn hc ht hus hm rfl⟩
  · intro h
    obtain ⟨us, hus, hfirst⟩ := h
    obtain ⟨m', hm', hname, rfl⟩ := hfirst.exists_member hc ht hus
    rw [eq_of_name_eq (nodup_name_membersOf c t) hm hm' hname.symm]

/-! ### The first route -/

theorem nameFrom?_zero (c : Catalog) (t : JavaType) (ts : List JavaType) (r : List ℕ) :
    c.nameFrom? (t :: ts) (0 :: r) = c.nameAt? t r := rfl

/-- The routes from a type come before those from the root class. So a name that some route from the
type leads to gives way exactly to those whose routes from the type come before. -/
theorem FirstRouted.ne_iff {P : String → Prop} {n y : String} {route : List ℕ}
    (h : c.FirstRouted [t, .object] P n) (hy : c.nameAt? t route = some y) (hPy : P y) :
    n ≠ y ↔ ∃ z r, c.nameAt? t r = some z ∧ P z ∧ ∀ q, c.nameAt? t q = some y → r < q := by
  obtain ⟨hPn, r, hr, hfirst⟩ := h
  constructor
  · intro hne
    have hroute : ¬0 :: route < r := hfirst (0 :: route) y (by rw [nameFrom?_zero, hy]) hPy
    cases r with
    | nil => cases hr
    | cons i r =>
      have hi : i = 0 := by
        by_contra hi
        exact hroute (List.cons_lt_cons_iff.2 (.inl (Nat.pos_of_ne_zero hi)))
      subst hi
      refine ⟨n, r, hr, hPn, ?_⟩
      intro q hq
      have hle : r ≤ q := not_lt.1 fun hlt =>
        hfirst (0 :: q) y (by rw [nameFrom?_zero, hq]) hPy
          (List.cons_lt_cons_iff.2 (.inr ⟨rfl, hlt⟩))
      apply lt_of_le_of_ne hle
      rintro rfl
      exact hne (Option.some.inj (hr.symm.trans hq))
  · rintro ⟨z, p, hp, hPz, hbefore⟩ rfl
    have hlt : 0 :: p < r := by
      cases r with
      | nil => cases hr
      | cons i r =>
        by_cases hi : i = 0
        · subst hi
          exact List.cons_lt_cons_iff.2 (.inr ⟨rfl, hbefore r hr⟩)
        · exact List.cons_lt_cons_iff.2 (.inl (Nat.pos_of_ne_zero hi))
    exact hfirst (0 :: p) z (by rw [nameFrom?_zero, hp]) hPz hlt

/-- Without cycles the declaration that is kept is that at the first route. -/
theorem exists_firstRouted_member (hc : ∀ k d, c.find? k = some d → d.qualifiedName = k)
    (hacyclic : c.Acyclic) (ht : c.declares t = true) {y : String} {route : List ℕ}
    (hy : c.nameAt? t route = some y) (hown : c.HasOwnMethod y name) :
    ∃ m ∈ parameterless (c.membersOf t), m.name = name ∧
      c.FirstRouted [t, .object] (c.HasOwnMethod · name) m.declaredIn := by
  obtain ⟨us, hus⟩ := c.exists_visits [t, .object] []
  obtain ⟨n, hnamed, hrouted⟩ := Frontier.exists_first hacyclic
    (fun k (hk : c.HasOwnMethod k name) => hk.ne_none) hus (Frontier.initial c _)
    (fun k hk => absurd hk List.not_mem_nil) ⟨0 :: route, y, by rw [nameFrom?_zero, hy], hown⟩
  obtain ⟨m, hm, hname, rfl⟩ := hnamed.exists_member hc ht hus
  exact ⟨m, hm, hname, hrouted⟩

/-- **When a declaration gives way.** Of the declarations of a method without parameters, a type has
the one that is visited first. Without cycles the declaration of `y` gives way to another one if and
only if a route to a declaration comes before all routes to `y`. -/
theorem overridden_iff_route_before {doc : Document} (hload : doc.catalog = .ok c)
    (ht : c.declares t = true) (name : String) :
    (∀ m ∈ parameterless (c.membersOf t), m.name = name → ∀ y,
      m.declaredIn = y ↔ c.FirstVisited t (c.HasOwnMethod · name) y) ∧
    (c.Acyclic → ∀ y route, c.nameAt? t route = some y → c.HasOwnMethod y name →
      ∃ m ∈ parameterless (c.membersOf t), m.name = name ∧
        (m.declaredIn ≠ y ↔ ∃ z r, c.nameAt? t r = some z ∧ c.HasOwnMethod z name ∧
          ∀ q, c.nameAt? t q = some y → r < q)) := by
  have hc : ∀ k d, c.find? k = some d → d.qualifiedName = k :=
    fun k d hd => Document.qualifiedName_of_catalog hload hd
  constructor
  · intro m hm hname y
    subst hname
    exact declaredIn_eq_iff hc ht hm
  · intro hacyclic y route hy hown
    obtain ⟨m, hm, hname, hrouted⟩ := exists_firstRouted_member hc hacyclic ht hy hown
    exact ⟨m, hm, hname, hrouted.ne_iff hy hown⟩

/-! ### Two ways to the same declaration -/

instance (c : Catalog) (owner name : String) : Decidable (c.HasOwnMethod owner name) :=
  decidable_of_iff
    ((c.find? owner).any fun d => d.methods.any fun m => m.name = name ∧ m.params = [])
    (by simp [HasOwnMethod, Option.any_eq_true])

/-- Supertypes with shorter names make no cycle. -/
theorem acyclic_of_shorter (h : ∀ e ∈ c.types.entries, ∀ s ∈ e.2.supertypes,
    ∃ k ∈ s.name?, k.length < e.1.length) : c.Acyclic := by
  apply acyclic_of_rank String.length
  intro n d hd s hs
  obtain ⟨k, hk, hlt⟩ := h (n, d) (NameMap.mem_of_find? hd) s hs
  exact ⟨k, hk, hlt⟩

/-- An interface with two extensions, of which the right one overrides its method, and a class with
both of these above it. -/
def diamond (supertypes : List String) : Document where
  types := .ofList [
    ("a.Top",
      { kind := .interfaceKind, methods := [{ name := "name", returns := "java.lang.Object" }] }),
    ("a.Left", { kind := .interfaceKind, supertypes := ["a.Top"] }),
    ("a.Right",
      { kind := .interfaceKind, supertypes := ["a.Top"]
        methods := [{ name := "name", returns := "java.lang.String" }] }),
    ("a.Diamond", { supertypes })]

/-- With the right one last, the class has the overridden method. -/
theorem diamond_keeps_overridden :
    ∃ c, (diamond ["a.Left", "a.Right"]).catalog = .ok c ∧ c.Acyclic ∧
      c.declares (.plain "a.Diamond") = true ∧
      c.nameAt? (.plain "a.Diamond") [1] = some "a.Right" ∧
      c.nameAt? (.plain "a.Right") [0] = some "a.Top" ∧
      c.HasOwnMethod "a.Right" "name" ∧ c.HasOwnMethod "a.Top" "name" ∧
      ∃ m ∈ parameterless (c.membersOf (.plain "a.Diamond")),
        m.name = "name" ∧ m.declaredIn = "a.Top" := by
  obtain ⟨c, hc, h⟩ := exists_of_eval (diamond ["a.Left", "a.Right"]).catalog (fun c =>
    (∀ e ∈ c.types.entries, ∀ s ∈ e.2.supertypes, ∃ k ∈ s.name?, k.length < e.1.length) ∧
      c.declares (.plain "a.Diamond") = true ∧
      c.nameAt? (.plain "a.Diamond") [1] = some "a.Right" ∧
      c.nameAt? (.plain "a.Right") [0] = some "a.Top" ∧
      c.HasOwnMethod "a.Right" "name" ∧ c.HasOwnMethod "a.Top" "name" ∧
      ∃ m ∈ parameterless (c.membersOf (.plain "a.Diamond")),
        m.name = "name" ∧ m.declaredIn = "a.Top") (by decide +kernel)
  exact ⟨c, hc, acyclic_of_shorter h.1, h.2⟩

/-- With the right one first, it gives way. -/
theorem diamond_drops_overridden :
    ∃ c, (diamond ["a.Right", "a.Left"]).catalog = .ok c ∧
      ∃ m ∈ parameterless (c.membersOf (.plain "a.Diamond")),
        m.name = "name" ∧ m.declaredIn ≠ "a.Top" := by
  obtain ⟨c, hc, hshorter, ht, hright, htop, hownRight, hownTop⟩ :=
    exists_of_eval (diamond ["a.Right", "a.Left"]).catalog (fun c =>
      (∀ e ∈ c.types.entries, ∀ s ∈ e.2.supertypes, ∃ k ∈ s.name?, k.length < e.1.length) ∧
        c.declares (.plain "a.Diamond") = true ∧
        c.nameAt? (.plain "a.Diamond") [0] = some "a.Right" ∧
        c.nameAt? (.plain "a.Diamond") [0, 0] = some "a.Top" ∧
        c.HasOwnMethod "a.Right" "name" ∧ c.HasOwnMethod "a.Top" "name") (by decide +kernel)
  have hbefore : ∀ q, c.nameAt? (.plain "a.Diamond") q = some "a.Top" → [0] < q := by
    intro q hq
    match q with
    | [] => exact absurd (Option.some.inj hq) (by decide)
    | [0] => exact absurd (Option.some.inj (hright.symm.trans hq)) (by decide)
    | 0 :: i :: q => exact lt_append (List.cons_ne_nil i q)
    | (i + 1) :: q => exact List.cons_lt_cons_iff.2 (.inl (Nat.succ_pos i))
  obtain ⟨m, hm, hname, hiff⟩ := (overridden_iff_route_before hc ht "name").2
    (acyclic_of_shorter hshorter) "a.Top" [0, 0] htop hownTop
  exact ⟨c, hc, m, hm, hname, hiff.2 ⟨"a.Right", [0], hright, hownRight, hbefore⟩⟩

end Catalog

end BuilderPlanner
