import BuilderPlanner.Proofs.Catalog.Loaded
import BuilderPlanner.Proofs.Surface.Parameterless
import BuilderPlanner.Proofs.Surface.Precedence
import Mathlib.Logic.Relation

/-!
# What is above a type is on its surface

A walk visits every declaration that supertypes lead to exactly once, cycles or not, and passes over
types that are not declared. So a surface has a member for every method above a type, of every
signature one, and no other members.

* `Catalog.Refers`, `Catalog.Reaches` — which names supertypes lead to;
* `Catalog.Visits.nodup_name`, `Catalog.Visits.chained` — a declaration is visited once, through
  supertypes of visited types;
* `Catalog.Visits.exists_of_reaches` — all declarations that are reached are visited;
* `Catalog.surface_of_reached` — the members of a type are the methods of what it reaches.
-/

namespace BuilderPlanner

namespace Catalog

/-! ### References -/

/-- No supertype of a declaration is a type variable by itself. -/
def NoVariableAbove (c : Catalog) : Prop :=
  ∀ n d, c.find? n = some d → ∀ s ∈ d.supertypes, ∀ x, s ≠ .var x

/-- The declaration of `m` has a supertype of the name `n`, be it declared or not. -/
def Refers (c : Catalog) (m n : String) : Prop :=
  ∃ d, c.find? m = some d ∧ ∃ s ∈ d.supertypes, s.name? = some n

/-- Supertypes lead from a type, or from the root class, to the name `n`. -/
def Reaches (c : Catalog) (t : JavaType) (n : String) : Prop :=
  ∃ root ∈ [t, .object], ∃ k, root.name? = some k ∧ Relation.ReflTransGen c.Refers k n

theorem name?_substitute_of_ne_var {s : JavaType} (h : ∀ x, s ≠ .var x)
    (σ : String → Option JavaType) : (s.substitute σ).name? = s.name? := by
  cases s with
  | var x => exact absurd rfl (h x)
  | named | array | wildcard | bounded => simp [JavaType.substitute, JavaType.name?]

/-- The names of the supertypes of a type are those that its declaration refers to. -/
theorem exists_refers {c : Catalog} (hc : c.NoVariableAbove) {t s : JavaType} {k : String}
    (hs : s ∈ c.supertypesOf t) (hk : s.name? = some k) :
    ∃ n, t.name? = some n ∧ c.Refers n k := by
  unfold supertypesOf at hs
  split at hs
  · exact absurd hs List.not_mem_nil
  · rename_i d hd
    obtain ⟨n, hn, hd⟩ := Option.bind_eq_some_iff.1 hd
    obtain ⟨s, hmem, rfl⟩ := List.mem_map.1 hs
    rw [name?_substitute_of_ne_var (hc n d hd s hmem)] at hk
    exact ⟨n, hn, d, hd, s, hmem, hk⟩

theorem Refers.exists_supertype {c : Catalog} {m n : String} (h : c.Refers m n) {t : JavaType}
    (ht : t.name? = some m) : ∃ s ∈ c.supertypesOf t, s.name? = some n := by
  obtain ⟨d, hd, s, hs, hn⟩ := h
  refine ⟨_, ?_, name?_substitute hn (d.bindings t.args).lookup⟩
  rw [supertypesOf_eq ht hd]
  exact List.mem_map_of_mem hs

/-! ### What is visited -/

section

variable {c : Catalog} {pending us : List JavaType} {visited : List String}

theorem Visits.declared (h : c.Visits pending visited us) :
    ∀ u ∈ us, ∃ n, u.name? = some n ∧ n ∉ visited ∧ c.find? n ≠ none := by
  induction h with
  | done visited =>
    intro u hu
    exact absurd hu List.not_mem_nil
  | nameless _ _ ih => exact ih
  | again _ _ _ ih => exact ih
  | undeclared _ _ _ _ ih =>
    intro u hu
    obtain ⟨k, hk, hv, hd⟩ := ih u hu
    exact ⟨k, hk, fun h => hv (List.mem_cons_of_mem _ h), hd⟩
  | @first t rest us visited n d hn hv hd _ ih =>
    intro u hu
    rcases List.mem_cons.1 hu with rfl | hu
    · exact ⟨n, hn, hv, Option.ne_none_iff_exists'.2 ⟨d, hd⟩⟩
    · obtain ⟨k, hk, hkv, hkd⟩ := ih u hu
      exact ⟨k, hk, fun h => hkv (List.mem_cons_of_mem _ h), hkd⟩

/-- No declaration is visited twice. -/
theorem Visits.nodup_name (h : c.Visits pending visited us) : (us.map JavaType.name?).Nodup := by
  induction h with
  | done visited => exact List.nodup_nil
  | nameless _ _ ih => exact ih
  | again _ _ _ ih => exact ih
  | undeclared _ _ _ _ ih => exact ih
  | @first t rest us visited n d hn _ _ h ih =>
    refine List.nodup_cons.2 ⟨?_, ih⟩
    intro hmem
    obtain ⟨u, hu, hname⟩ := List.mem_map.1 hmem
    obtain ⟨k, hk, hv, -⟩ := h.declared u hu
    have hkn : k = n := Option.some.inj (hk.symm.trans (hname.trans hn))
    exact hv (hkn ▸ List.mem_cons_self)

/-- So there are at most as many visits as declarations. -/
theorem Visits.length_le (h : c.Visits pending visited us) : us.length ≤ c.types.size := by
  have hsub : us.map JavaType.name? ⊆ c.types.entries.map fun e => some e.1 := by
    intro name hname
    obtain ⟨u, hu, rfl⟩ := List.mem_map.1 hname
    obtain ⟨n, hn, -, hd⟩ := h.declared u hu
    obtain ⟨d, hd⟩ := Option.ne_none_iff_exists'.1 hd
    rw [hn]
    exact List.mem_map.2 ⟨(n, d), NameMap.mem_of_find? hd, rfl⟩
  have hle := h.nodup_name.length_le_of_subset hsub
  rwa [List.length_map, List.length_map] at hle

/-- What holds of the pending types and passes on to supertypes holds of all that is visited. -/
theorem Visits.all {P : JavaType → Prop} (h : c.Visits pending visited us)
    (hpending : ∀ t ∈ pending, P t) (hstep : ∀ t, P t → ∀ s ∈ c.supertypesOf t, P s) :
    ∀ u ∈ us, P u := by
  induction h with
  | done visited =>
    intro u hu
    exact absurd hu List.not_mem_nil
  | nameless _ _ ih => exact ih fun t ht => hpending t (List.mem_cons_of_mem _ ht)
  | again _ _ _ ih => exact ih fun t ht => hpending t (List.mem_cons_of_mem _ ht)
  | undeclared _ _ _ _ ih => exact ih fun t ht => hpending t (List.mem_cons_of_mem _ ht)
  | @first t rest us visited n d _ _ _ _ ih =>
    have ht := hpending t List.mem_cons_self
    intro u hu
    rcases List.mem_cons.1 hu with rfl | hu
    · exact ht
    · refine ih ?_ u hu
      intro s hs
      rcases List.mem_append.1 hs with hs | hs
      · exact hstep t ht s hs
      · exact hpending s (List.mem_cons_of_mem _ hs)

/-- A visited type is at the end of a chain of supertypes, each seen through the arguments of the
one before. -/
theorem Visits.chained {roots : List JavaType} (h : c.Visits roots visited us) :
    ∀ u ∈ us, ∃ route, c.followFrom roots route = some u := by
  refine h.all ?_ ?_
  · intro t ht
    obtain ⟨i, hi⟩ := List.mem_iff_getElem?.1 ht
    refine ⟨[i], ?_⟩
    rw [followFrom, hi]
    rfl
  · intro t ht s hs
    obtain ⟨route, hroute⟩ := ht
    obtain ⟨i, hi⟩ := List.mem_iff_getElem?.1 hs
    refine ⟨route ++ [i], ?_⟩
    rw [followFrom_append hroute, follow, hi]
    rfl

theorem Visits.reaches {t : JavaType} (hc : c.NoVariableAbove) (h : c.Visits [t, .object] [] us) :
    ∀ u ∈ us, ∀ n, u.name? = some n → c.Reaches t n := by
  refine h.all ?_ ?_
  · intro root hroot n hn
    exact ⟨root, hroot, n, hn, .refl⟩
  · intro u hu s hs k hk
    obtain ⟨n, hn, hrefers⟩ := exists_refers hc hs hk
    obtain ⟨root, hroot, m, hm, hpath⟩ := hu n hn
    exact ⟨root, hroot, m, hm, hpath.tail hrefers⟩

/-! ### What is passed over -/

/-- A name that a walk has no need to come to: it was visited before, is not declared, or is that of
a visited type. -/
def Settled (c : Catalog) (visited : List String) (us : List JavaType) (n : String) : Prop :=
  n ∈ visited ∨ c.find? n = none ∨ ∃ u ∈ us, u.name? = some n

theorem Settled.of_undeclared {m n : String} (h : c.Settled (m :: visited) us n)
    (hm : c.find? m = none) : c.Settled visited us n := by
  rcases h with hv | hrest
  · rcases List.mem_cons.1 hv with rfl | hv
    · exact .inr (.inl hm)
    · exact .inl hv
  · exact .inr hrest

theorem Settled.of_first {t : JavaType} {m n : String} (h : c.Settled (m :: visited) us n)
    (ht : t.name? = some m) : c.Settled visited (t :: us) n := by
  rcases h with hv | hd | ⟨u, hu, hn⟩
  · rcases List.mem_cons.1 hv with rfl | hv
    · exact .inr (.inr ⟨t, List.mem_cons_self, ht⟩)
    · exact .inl hv
  · exact .inr (.inl hd)
  · exact .inr (.inr ⟨u, List.mem_cons_of_mem _ hu, hn⟩)

/-- A walk settles all that is pending. -/
theorem Visits.settled_of_mem (h : c.Visits pending visited us) {t : JavaType} {n : String}
    (ht : t ∈ pending) (hn : t.name? = some n) : c.Settled visited us n := by
  induction h with
  | done visited => exact absurd ht List.not_mem_nil
  | nameless hnameless _ ih =>
    rcases List.mem_cons.1 ht with rfl | ht
    · exact absurd (hn.symm.trans hnameless) (Option.some_ne_none n)
    · exact ih ht
  | again hname hv _ ih =>
    rcases List.mem_cons.1 ht with rfl | ht
    · obtain rfl := Option.some.inj (hn.symm.trans hname)
      exact .inl hv
    · exact ih ht
  | undeclared hname _ hd _ ih =>
    rcases List.mem_cons.1 ht with rfl | ht
    · obtain rfl := Option.some.inj (hn.symm.trans hname)
      exact .inr (.inl hd)
    · exact (ih ht).of_undeclared hd
  | first hname _ _ _ ih =>
    rcases List.mem_cons.1 ht with rfl | ht
    · exact .inr (.inr ⟨t, List.mem_cons_self, hn⟩)
    · exact (ih (List.mem_append_right _ ht)).of_first hname

/-- A walk settles the supertypes of all that it visits. -/
theorem Visits.settled_of_mem_supertypesOf (h : c.Visits pending visited us) {u s : JavaType}
    {n : String} (hu : u ∈ us) (hs : s ∈ c.supertypesOf u) (hn : s.name? = some n) :
    c.Settled visited us n := by
  induction h with
  | done visited => exact absurd hu List.not_mem_nil
  | nameless _ _ ih => exact ih hu
  | again _ _ _ ih => exact ih hu
  | undeclared _ _ hd _ ih => exact (ih hu).of_undeclared hd
  | first hname _ _ h ih =>
    rcases List.mem_cons.1 hu with rfl | hu
    · exact (h.settled_of_mem (List.mem_append_left _ hs) hn).of_first hname
    · exact (ih hu).of_first hname

/-- Every declaration that is reached is visited. The visited names and those that are not declared
are closed under references. -/
theorem Visits.exists_of_reaches {t : JavaType} {n : String} (h : c.Visits [t, .object] [] us)
    (hreaches : c.Reaches t n) (hd : c.find? n ≠ none) : ∃ u ∈ us, u.name? = some n := by
  obtain ⟨root, hroot, k, hk, hpath⟩ := hreaches
  have hsettled : c.Settled [] us n := by
    induction hpath with
    | refl => exact h.settled_of_mem hroot hk
    | @tail m n _ hrefers ih =>
      have hm : c.find? m ≠ none := by
        obtain ⟨d, hd, -⟩ := hrefers
        exact Option.ne_none_iff_exists'.2 ⟨d, hd⟩
      rcases ih hm with hv | hnone | ⟨u, hu, hname⟩
      · exact absurd hv List.not_mem_nil
      · exact absurd hnone hm
      · obtain ⟨s, hs, hn⟩ := hrefers.exists_supertype hname
        exact h.settled_of_mem_supertypesOf hu hs hn
  rcases hsettled with hv | hnone | hvisited
  · exact absurd hv List.not_mem_nil
  · exact absurd hnone hd
  · exact hvisited

/-- It makes no difference to the visits whether a name that is not declared was visited. -/
theorem Visits.congr_visited (h : c.Visits pending visited us) {visited' : List String}
    (hv : ∀ n, c.find? n ≠ none → (n ∈ visited ↔ n ∈ visited')) :
    c.Visits pending visited' us := by
  induction h generalizing visited' with
  | done visited => exact .done visited'
  | nameless hn _ ih => exact .nameless hn (ih hv)
  | @again t rest us visited n hn hmem _ ih =>
    by_cases hmem' : n ∈ visited'
    · exact .again hn hmem' (ih hv)
    · have hd : c.find? n = none := by
        by_contra hd
        exact hmem' ((hv n hd).1 hmem)
      refine .undeclared hn hmem' hd (ih fun k hk => ?_)
      rw [hv k hk, List.mem_cons, or_iff_right (by rintro rfl; exact hk hd)]
  | @undeclared t rest us visited n hn _ hd _ ih =>
    have hcons : ∀ k, c.find? k ≠ none → (k ∈ n :: visited ↔ k ∈ visited') := by
      intro k hk
      rw [← hv k hk, List.mem_cons, or_iff_right (by rintro rfl; exact hk hd)]
    by_cases hmem' : n ∈ visited'
    · exact .again hn hmem' (ih hcons)
    · refine .undeclared hn hmem' hd (ih fun k hk => ?_)
      rw [hcons k hk, List.mem_cons, or_iff_right (by rintro rfl; exact hk hd)]
  | @first t rest us visited n d hn hmem hd _ ih =>
    have hdeclared : c.find? n ≠ none := Option.ne_none_iff_exists'.2 ⟨d, hd⟩
    refine .first hn (fun h => hmem ((hv n hdeclared).2 h)) hd (ih fun k hk => ?_)
    rw [List.mem_cons, List.mem_cons, hv k hk]

/-- A type that is not declared contributes no member, and the walk goes on behind it. -/
theorem members_walk_undeclared {s : JavaType} (hs : c.declares s = false)
    (rest : List JavaType) (visited : List String) (surface : Surface) :
    (c.walk (s :: rest) visited surface).members = (c.walk rest visited surface).members := by
  obtain ⟨us, hus⟩ := c.exists_visits rest visited
  have hskip : c.Visits (s :: rest) visited us := by
    cases hn : s.name? with
    | none => exact .nameless hn hus
    | some n =>
      have hd : c.find? n = none := by simpa [declares, hn] using hs
      by_cases hmem : n ∈ visited
      · exact .again hn hmem hus
      · refine .undeclared hn hmem hd (hus.congr_visited fun k hk => ?_)
        rw [List.mem_cons, or_iff_right (by rintro rfl; exact hk hd)]
  rw [hskip.members_walk, hus.members_walk]

/-! ### Members and visits -/

variable {t : JavaType} {e : Member}

/-- Every member is a method of a visited type. -/
theorem Visits.exists_of_mem_membersOf (ht : c.declares t = true)
    (h : c.Visits [t, .object] [] us) (he : e ∈ c.membersOf t) :
    ∃ u ∈ us, e ∈ c.ownMembers u := by
  have hfind := (find?_key_eq_some_iff (c.nodup_signature_membersOf t)).2 ⟨he, rfl⟩
  rw [h.find?_membersOf ht] at hfind
  exact List.mem_flatMap.1 (List.mem_of_find?_eq_some hfind)

/-- Every method of a visited type has a member of its signature. -/
theorem Visits.exists_of_mem_ownMembers (ht : c.declares t = true)
    (h : c.Visits [t, .object] [] us) {u : JavaType} (hu : u ∈ us) (he : e ∈ c.ownMembers u) :
    ∃ e' ∈ c.membersOf t, e'.signature = e.signature := by
  have hfound : ((c.membersOf t).find? (·.signature = e.signature)).isSome = true := by
    rw [h.find?_membersOf ht, List.find?_isSome]
    exact ⟨e, List.mem_flatMap.2 ⟨u, hu, he⟩, decide_eq_true rfl⟩
  obtain ⟨e', he'⟩ := Option.isSome_iff_exists.1 hfound
  have hsignature : e'.signature = e.signature := by simpa using List.find?_some he'
  exact ⟨e', List.mem_of_find?_eq_some he', hsignature⟩

/-- A method without parameters of a declaration that is reached has one member, which has its name
and no parameters either. -/
theorem Visits.existsUnique_parameterless (ht : c.declares t = true)
    (h : c.Visits [t, .object] [] us) {u : JavaType} (hu : u ∈ us) {n : String} {d : Declaration}
    (hn : u.name? = some n) (hd : c.find? n = some d) {m : Method} (hm : m ∈ d.methods)
    (hparams : m.params = []) : ∃! e, e ∈ parameterless (c.membersOf t) ∧ e.name = m.name := by
  have hown : m.seenThrough (d.bindings u.args) d.qualifiedName ∈ c.ownMembers u := by
    rw [ownMembers_eq hn hd]
    exact List.mem_map_of_mem hm
  obtain ⟨e, he, hsignature⟩ := h.exists_of_mem_ownMembers ht hu hown
  have hsignature : e.signature = (m.name, []) := by
    rw [hsignature, signature_eq_iff, Method.seenThrough, hparams]
    exact ⟨rfl, rfl⟩
  obtain ⟨hname, hnone⟩ := signature_eq_iff.1 hsignature
  refine ⟨e, ⟨mem_parameterless.2 ⟨he, hnone⟩, hname⟩, ?_⟩
  rintro e' ⟨he', hname'⟩
  exact eq_of_name_eq (nodup_name_membersOf c t) he' (mem_parameterless.2 ⟨he, hnone⟩)
    (hname'.trans hname.symm)

end

/-! ### Surfaces -/

/-- The members of a type are the methods of the types `us`, and these are the declarations that
the type reaches, each as it is seen from there. -/
structure Exact (c : Catalog) (t : JavaType) (us : List JavaType) : Prop where
  /-- Every declaration that is reached is among the types, and no others are. -/
  reached : ∀ n, (∃ u ∈ us, u.name? = some n) ↔ c.Reaches t n ∧ c.find? n ≠ none
  /-- No declaration is among them twice. -/
  once : (us.map JavaType.name?).Nodup
  /-- Each is at the end of a chain of supertypes, seen through the arguments along it. -/
  chained : ∀ u ∈ us, ∃ route, c.followFrom [t, .object] route = some u
  /-- Nothing is invented. -/
  sound : ∀ e ∈ c.membersOf t, ∃ u ∈ us, e ∈ c.ownMembers u
  /-- Nothing is lost. -/
  complete : ∀ u ∈ us, ∀ e ∈ c.ownMembers u, ∃ e' ∈ c.membersOf t, e'.signature = e.signature
  /-- Nothing is repeated. -/
  nodup : ((c.membersOf t).map Member.signature).Nodup

/-- **The members of a type are the methods of what it reaches.** Whatever the shape of the
hierarchy, a walk over a declared type ends after at most one visit to each declaration, and these
visits account for all members exactly. So a method without parameters of any declaration that is
reached has exactly one member of its name. Types that are not declared add nothing and stop
nothing, wherever the walk meets them. -/
theorem surface_of_reached {c : Catalog} (hc : c.NoVariableAbove) {t : JavaType}
    (ht : c.declares t = true) :
    (∃ us, c.Visits [t, .object] [] us ∧ us.length ≤ c.types.size ∧ c.Exact t us) ∧
    (∀ n d, c.Reaches t n → c.find? n = some d → ∀ m ∈ d.methods, m.params = [] →
      ∃! e, e ∈ parameterless (c.membersOf t) ∧ e.name = m.name) ∧
    (∀ s, c.declares s = false → ∀ rest visited surface,
      (c.walk (s :: rest) visited surface).members = (c.walk rest visited surface).members) := by
  obtain ⟨us, hus⟩ := c.exists_visits [t, .object] []
  refine ⟨⟨us, hus, hus.length_le, ?_⟩, ?_, fun s hs => members_walk_undeclared hs⟩
  · refine ⟨fun n => ⟨?_, fun h => hus.exists_of_reaches h.1 h.2⟩, hus.nodup_name, hus.chained,
      fun e he => hus.exists_of_mem_membersOf ht he,
      fun u hu e he => hus.exists_of_mem_ownMembers ht hu he, c.nodup_signature_membersOf t⟩
    rintro ⟨u, hu, hn⟩
    obtain ⟨k, hk, -, hd⟩ := hus.declared u hu
    obtain rfl := Option.some.inj (hn.symm.trans hk)
    exact ⟨hus.reaches hc u hu n hn, hd⟩
  · intro n d hreaches hd m hm hparams
    have hdeclared : c.find? n ≠ none := Option.ne_none_iff_exists'.2 ⟨d, hd⟩
    obtain ⟨u, hu, hn⟩ := hus.exists_of_reaches hreaches hdeclared
    exact hus.existsUnique_parameterless ht hu hn hd hm hparams

/-! ### A hierarchy with a cycle -/

/-- Where all supertypes are classes or interfaces, none is a type variable. -/
theorem noVariableAbove_of_named {c : Catalog}
    (h : ∀ e ∈ c.types.entries, ∀ s ∈ e.2.supertypes, s.name? ≠ none) : c.NoVariableAbove := by
  rintro n d hd s hs x rfl
  exact h (n, d) (NameMap.mem_of_find? hd) _ hs rfl

/-- Two interfaces above each other, with arguments that grow at every turn, and a supertype that is
not declared before the other one. -/
def knot : Document where
  types := .ofList [
    ("a.Left",
      { kind := .interfaceKind, typeParams := ["T"]
        supertypes := ["a.Missing<T>", "a.Right<java.util.List<T>>"]
        methods := [{ name := "left", returns := "T" }] }),
    ("a.Right",
      { kind := .interfaceKind, typeParams := ["T"]
        supertypes := ["a.Left<a.Right<T>>", "a.Right<T>"]
        methods := [{ name := "right", returns := "T" }] })]

theorem surface_of_knot :
    ∃ c, knot.catalog = .ok c ∧ c.NoVariableAbove ∧
      c.declares (.named "a.Left" [.plain "int"]) = true ∧
      (∃ us, c.Visits [.named "a.Left" [.plain "int"], .object] [] us ∧ us.length ≤ 3 ∧
        c.Exact (.named "a.Left" [.plain "int"]) us) ∧
      ∃! e, e ∈ parameterless (c.membersOf (.named "a.Left" [.plain "int"])) ∧ e.name = "right" := by
  obtain ⟨c, hc, hnamed, hsize, ht, hleft, hright⟩ :=
    exists_of_eval knot.catalog (fun c =>
      (∀ e ∈ c.types.entries, ∀ s ∈ e.2.supertypes, s.name? ≠ none) ∧ c.types.size = 3 ∧
        c.declares (.named "a.Left" [.plain "int"]) = true ∧
        (∃ d ∈ c.find? "a.Left", ∃ s ∈ d.supertypes, s.name? = some "a.Right") ∧
        ∃ d ∈ c.find? "a.Right", ∃ m ∈ d.methods, m.name = "right" ∧ m.params = [])
      (by decide +kernel)
  have hreaches : c.Reaches (.named "a.Left" [.plain "int"]) "a.Right" :=
    ⟨_, List.mem_cons_self, "a.Left", rfl, .single hleft⟩
  have hvariables := noVariableAbove_of_named hnamed
  obtain ⟨hvisits, hone, -⟩ := surface_of_reached hvariables ht
  rw [hsize] at hvisits
  obtain ⟨right, hd, m, hm, hname, hparams⟩ := hright
  rw [← hname]
  exact ⟨c, hc, hvariables, ht, hvisits, hone "a.Right" right hreaches hd m hm hparams⟩

end Catalog

end BuilderPlanner
