import BuilderPlanner.Proofs.Plan.OwnGetters

/-!
# Where the variables of a surface come from

A use with a wrong number of arguments binds nothing, so the type parameters of its declaration are
left where they stand, and are passed on to the supertypes from there. This is the only way in which
a variable comes to a surface, apart from the target and the method itself.

* `Catalog.Chain` — the types that lead from a target to one of its supertypes;
* `Catalog.LeftOpen` — a variable is a parameter of a declaration that one of the types uses with a
  wrong number of arguments;
* `Catalog.mem_vars_of_mem_supertypesOf`, `Catalog.Chain.mem_vars` — the variables of the supertypes
  of a type, and of all types along a chain;
* `Catalog.mem_vars_membersOf` — the variables of a surface.
-/

namespace BuilderPlanner

/-- The variables in the types of a member. -/
def Member.vars (e : Member) : List String := JavaType.varsAll (e.params ++ [e.returns])

theorem JavaType.varsAll_args_subset (t : JavaType) : varsAll t.args ⊆ t.vars := by
  cases t with
  | named n args => exact List.Subset.refl _
  | var | array | wildcard | bounded => exact List.nil_subset _

/-- A type in a declaration, seen through the arguments of a use, has the variables of these. If
their number is wrong, it keeps its own. Names that a method hides are kept as well. -/
theorem Declaration.mem_vars_substitute {d : Declaration} {args : List JavaType}
    {hidden : List String} {t : JavaType} (ht : t.vars ⊆ d.typeParams ++ hidden) {x : String}
    (hx : x ∈ (t.substitute ((d.bindings args).without hidden).lookup).vars) :
    x ∈ JavaType.varsAll args ∨ x ∈ hidden ∨
      args.length ≠ d.typeParams.length ∧ x ∈ d.typeParams := by
  obtain ⟨y, hy, hx⟩ := JavaType.mem_vars_substitute.1 hx
  rw [JavaType.substitute] at hx
  by_cases hhidden : y ∈ hidden
  · rw [Bindings.lookup_without_of_mem hhidden] at hx
    obtain rfl := List.mem_singleton.1 hx
    exact .inr (.inl hhidden)
  · have hparam : y ∈ d.typeParams := (List.mem_append.1 (ht hy)).resolve_right hhidden
    rw [Bindings.lookup_without_of_not_mem hhidden] at hx
    by_cases hlength : args.length = d.typeParams.length
    · obtain ⟨u, hu⟩ := exists_lookup hlength hparam
      rw [hu] at hx
      exact .inl (JavaType.mem_varsAll.2 ⟨u, (List.of_mem_zip (mem_zip_of_lookup hu)).2, hx⟩)
    · rw [bindings_of_length_ne hlength] at hx
      obtain rfl := List.mem_singleton.1 hx
      exact .inr (.inr ⟨hlength, hparam⟩)

namespace Catalog

/-! ### Chains of supertypes -/

/-- The types in a list lead from the target `t`, or from the root class, to the last of them, which
is given apart: each is a supertype of the one before, seen through its arguments. -/
inductive Chain (c : Catalog) (t : JavaType) : List JavaType → JavaType → Prop
  | start {u : JavaType} (hu : u ∈ [t, .object]) : Chain c t [u] u
  | step {us : List JavaType} {u s : JavaType} (h : Chain c t us u) (hs : s ∈ c.supertypesOf u) :
      Chain c t (us ++ [s]) s

/-- One of the types is a use of a declaration with a wrong number of arguments, and the variable is
a type parameter of this declaration. -/
def LeftOpen (c : Catalog) (us : List JavaType) (x : String) : Prop :=
  ∃ u ∈ us, ∃ d ∈ u.name?.bind c.find?, u.args.length ≠ d.typeParams.length ∧ x ∈ d.typeParams

/-- A member of `t` is the method `m` of the declaration at the end of a chain, as it is seen from
there. -/
def ComesFrom (c : Catalog) (t : JavaType) (us : List JavaType) (m : Method) (e : Member) : Prop :=
  ∃ u d, c.Chain t us u ∧ u.name?.bind c.find? = some d ∧ m ∈ d.methods ∧
    e = m.seenThrough (d.bindings u.args) d.qualifiedName

section

variable {c : Catalog} {t u s : JavaType} {us vs : List JavaType} {x : String}

theorem LeftOpen.mono (h : c.LeftOpen us x) (hsub : us ⊆ vs) : c.LeftOpen vs x := by
  obtain ⟨u, hu, hopen⟩ := h
  exact ⟨u, hsub hu, hopen⟩

theorem Chain.last_mem (h : c.Chain t us u) : u ∈ us := by
  cases h with
  | start hu => exact List.mem_cons_self
  | step h hs => exact List.mem_append_right _ List.mem_cons_self

/-- Every type on a chain is at the end of a shorter one. -/
theorem Chain.exists_of_mem (h : c.Chain t us u) {v : JavaType} (hv : v ∈ us) :
    ∃ vs, c.Chain t vs v := by
  induction h with
  | start hu =>
    obtain rfl := List.mem_singleton.1 hv
    exact ⟨_, .start hu⟩
  | step h hs ih =>
    rcases List.mem_append.1 hv with hv | hv
    · exact ih hv
    · obtain rfl := List.mem_singleton.1 hv
      exact ⟨_, .step h hs⟩

/-- Where all types on chains have as many arguments as they are to have, no variable is left
open. -/
theorem Chain.not_leftOpen (hfits : ∀ us u, c.Chain t us u → c.Fits u) (h : c.Chain t us u) :
    ¬c.LeftOpen us x := by
  rintro ⟨v, hv, d, hd, hlength, -⟩
  obtain ⟨vs, hvs⟩ := h.exists_of_mem hv
  exact hlength (hfits vs v hvs d hd)

/-- What a walk visits is at the end of a chain. -/
theorem Visits.exists_chain {visited : List String} (h : c.Visits [t, .object] visited us) :
    ∀ u ∈ us, ∃ vs, c.Chain t vs u := by
  refine h.all (fun u hu => ⟨[u], .start hu⟩) ?_
  rintro u ⟨vs, hvs⟩ s hs
  exact ⟨vs ++ [s], .step hvs hs⟩

/-! ### Variables along a chain -/

/-- One step: a supertype has variables of the type below, unless this has a wrong number of
arguments. -/
theorem mem_vars_of_mem_supertypesOf (hc : ∀ n d, c.find? n = some d → d.Scoped)
    (hs : s ∈ c.supertypesOf u) (hx : x ∈ s.vars) : x ∈ u.vars ∨ c.LeftOpen [u] x := by
  unfold supertypesOf at hs
  split at hs
  · exact absurd hs List.not_mem_nil
  · rename_i d hd
    obtain ⟨n, -, hfind⟩ := Option.bind_eq_some_iff.1 hd
    obtain ⟨s, hmem, rfl⟩ := List.mem_map.1 hs
    have hscope : s.vars ⊆ d.typeParams ++ [] := by
      rw [List.append_nil]
      exact (hc n d hfind).supertypes s hmem
    rw [← Bindings.without_nil (d.bindings u.args)] at hx
    rcases Declaration.mem_vars_substitute hscope hx with hx | hx | ⟨hlength, hx⟩
    · exact .inl (u.varsAll_args_subset hx)
    · exact absurd hx List.not_mem_nil
    · exact .inr ⟨u, List.mem_cons_self, d, hd, hlength, hx⟩

/-- All steps: a type at the end of a chain has variables of the target, and of declarations that
are used with a wrong number of arguments on the way. -/
theorem Chain.mem_vars (hc : ∀ n d, c.find? n = some d → d.Scoped) (h : c.Chain t us u)
    (hx : x ∈ u.vars) : x ∈ t.vars ∨ c.LeftOpen us x := by
  induction h with
  | start hu =>
    rcases List.mem_cons.1 hu with rfl | hu
    · exact .inl hx
    · obtain rfl := List.mem_singleton.1 hu
      exact absurd hx List.not_mem_nil
  | step h hs ih =>
    rcases mem_vars_of_mem_supertypesOf hc hs hx with hx | hopen
    · exact (ih hx).imp_right fun hopen => hopen.mono (List.subset_append_left _ _)
    · refine .inr (hopen.mono fun v hv => List.mem_append_left _ ?_)
      exact List.mem_singleton.1 hv ▸ h.last_mem

/-- A method at the end of a chain has, beside its own type parameters, variables of the target and
of declarations that are used with a wrong number of arguments on the way. -/
theorem ComesFrom.mem_vars (hc : ∀ n d, c.find? n = some d → d.Scoped) {m : Method} {e : Member}
    (h : c.ComesFrom t us m e) (hx : x ∈ e.vars) :
    x ∈ t.vars ∨ x ∈ m.typeParams ∨ c.LeftOpen us x := by
  obtain ⟨u, d, hchain, hd, hm, rfl⟩ := h
  obtain ⟨n, -, hfind⟩ := Option.bind_eq_some_iff.1 hd
  have hscope := (hc n d hfind).methods m hm
  obtain ⟨type, htype, hx⟩ := JavaType.mem_varsAll.1 hx
  have hseen : ∃ r : JavaType, r.vars ⊆ d.typeParams ++ m.typeParams ∧
      type = r.substitute ((d.bindings u.args).without m.typeParams).lookup := by
    rcases List.mem_append.1 htype with htype | htype
    · obtain ⟨p, hp, rfl⟩ := List.mem_map.1 htype
      exact ⟨p, hscope.params p hp, rfl⟩
    · exact ⟨m.returns, hscope.returns, List.mem_singleton.1 htype⟩
  obtain ⟨r, hr, rfl⟩ := hseen
  rcases Declaration.mem_vars_substitute hr hx with hx | hx | ⟨hlength, hx⟩
  · exact (hchain.mem_vars hc (u.varsAll_args_subset hx)).imp_right .inr
  · exact .inr (.inl hx)
  · exact .inr (.inr ⟨u, hchain.last_mem, d, hd, hlength, hx⟩)

theorem exists_comesFrom {e : Member} (he : e ∈ c.membersOf t) : ∃ us m, c.ComesFrom t us m e := by
  by_cases ht : c.declares t = true
  · obtain ⟨us, hus⟩ := c.exists_visits [t, .object] []
    obtain ⟨u, hu, he⟩ := hus.exists_of_mem_membersOf ht he
    obtain ⟨vs, hvs⟩ := hus.exists_chain u hu
    obtain ⟨n, hn, -, hd⟩ := hus.declared u hu
    obtain ⟨d, hd⟩ := Option.ne_none_iff_exists'.1 hd
    rw [ownMembers_eq hn hd] at he
    obtain ⟨m, hm, rfl⟩ := List.mem_map.1 he
    exact ⟨vs, m, u, d, hvs, Option.bind_eq_some_iff.2 ⟨n, hn, hd⟩, hm, rfl⟩
  · rw [membersOf_eq_nil ht] at he
    exact absurd he List.not_mem_nil

end

theorem mem_typeParams_of_mem_vars_declaredType {d : Declaration} {x : String}
    (hx : x ∈ d.declaredType.vars) : x ∈ d.typeParams := by
  obtain ⟨t, ht, hx⟩ := JavaType.mem_varsAll.1 hx
  obtain ⟨y, hy, rfl⟩ := List.mem_map.1 ht
  exact List.mem_singleton.1 hx ▸ hy

/-- **Where the variables of a surface come from.** In a loaded catalog every member of every type is
a method at the end of a chain of supertypes from the type, or from the root class. Each variable of
the member is one of the type, or a type parameter of the method itself, or one of a declaration that
is used on the chain with a wrong number of arguments. So if the chains from a value type have no
such use, the type of every property in its plan has only variables that are parameters of the value
type or of the getter. -/
theorem mem_vars_membersOf {doc : Document} {c : Catalog} (hload : doc.catalog = .ok c) :
    (∀ t, ∀ e ∈ c.membersOf t, ∃ us m, c.ComesFrom t us m e ∧
      ∀ x ∈ e.vars, x ∈ t.vars ∨ x ∈ m.typeParams ∨ c.LeftOpen us x) ∧
    (∀ preferences valueType d, Preferences.check preferences = .ok () →
      c.find? valueType = some d → (∀ us u, c.Chain d.declaredType us u → c.Fits u) →
      ∃ p, c.plan preferences valueType = .ok p ∧ ∀ q ∈ p.properties,
        ∃ e ∈ c.membersOf d.declaredType, q.getter = e.name ∧ q.type = e.returns.text ∧
          ∃ us m, c.ComesFrom d.declaredType us m e ∧
            ∀ x ∈ e.returns.vars, x ∈ d.typeParams ∨ x ∈ m.typeParams) := by
  have hscoped : ∀ n d, c.find? n = some d → d.Scoped := fun _ _ =>
    Document.scoped_of_catalog hload
  refine ⟨fun t e he => ?_, fun preferences valueType d hcheck hd hfits => ?_⟩
  · obtain ⟨us, m, hfrom⟩ := exists_comesFrom he
    exact ⟨us, m, hfrom, fun x hx => hfrom.mem_vars hscoped hx⟩
  · refine ⟨_, plan_eq_ok hcheck hd, fun q hq => ?_⟩
    have hmem := List.mem_map_of_mem (f := fun q => (q.getter, q.type)) hq
    rw [map_getter_type_properties_planFor] at hmem
    obtain ⟨e, he, heq⟩ := List.mem_map.1 hmem
    obtain ⟨hname, htype⟩ := Prod.mk.inj heq
    have he : e ∈ c.membersOf d.declaredType := List.mem_of_mem_filter he
    obtain ⟨us, m, hfrom⟩ := exists_comesFrom he
    refine ⟨e, he, hname.symm, htype.symm, us, m, hfrom, fun x hx => ?_⟩
    have hvars : x ∈ e.vars :=
      JavaType.mem_varsAll.2 ⟨_, List.mem_append_right _ List.mem_cons_self, hx⟩
    rcases hfrom.mem_vars hscoped hvars with hx | hx | hopen
    · exact .inl (mem_typeParams_of_mem_vars_declaredType hx)
    · exact .inr hx
    · obtain ⟨u, -, hchain, -⟩ := hfrom
      exact absurd hopen (hchain.not_leftOpen hfits)

/-! ### A raw supertype -/

/-- A catalog in which all supertypes have as many arguments as they are to have has no other uses on
the chains from such a type. -/
theorem WellReferenced.fits_of_chain {c : Catalog} (hw : c.WellReferenced) {t u : JavaType}
    {us : List JavaType} (ht : c.Fits t) (h : c.Chain t us u) : c.Fits u := by
  cases h with
  | start hu =>
    rcases List.mem_cons.1 hu with rfl | hu
    · exact ht
    · exact List.mem_singleton.1 hu ▸ hw.object
  | step _ hs => exact (hw.of_mem_supertypesOf hs).2

theorem fits_declaredType {c : Catalog} {d : Declaration} (hd : c.find? d.qualifiedName = some d) :
    c.Fits d.declaredType := by
  intro d' hd'
  obtain rfl := Option.some.inj (hd.symm.trans hd')
  exact List.length_map _

/-- An interface whose supertype is raw. -/
def rawDocument : Document where
  types := .ofList [
    ("a.Box", { kind := .interfaceKind, typeParams := ["T"]
                methods := [{ name := "content", returns := "T" }] }),
    ("a.Crate", { kind := .interfaceKind, supertypes := ["a.Box"] })]

/-- The parameter of the raw supertype is left open on the surface of the interface. In a catalog
without such uses every property has variables of its value type and of its getter only. -/
theorem variables_of_crate :
    (∃ c, rawDocument.catalog = .ok c ∧ ∃ e ∈ c.membersOf (.plain "a.Crate"), ∃ us m,
      c.ComesFrom (.plain "a.Crate") us m e ∧ "T" ∈ e.vars ∧ m.typeParams = [] ∧
      c.LeftOpen us "T") ∧
    ∃ c d p, pairs.catalog = .ok c ∧ c.find? "a.Pair" = some d ∧ c.plan {} "a.Pair" = .ok p ∧
      ∀ q ∈ p.properties, ∃ e ∈ c.membersOf d.declaredType, q.type = e.returns.text ∧
        ∃ us m, c.ComesFrom d.declaredType us m e ∧
          ∀ x ∈ e.returns.vars, x ∈ d.typeParams ∨ x ∈ m.typeParams := by
  constructor
  · obtain ⟨c, hc, hparams, e, he, hx⟩ := exists_of_eval rawDocument.catalog
      (fun c => (∀ entry ∈ c.types.entries, ∀ m ∈ entry.2.methods, m.typeParams = []) ∧
        ∃ e ∈ c.membersOf (.plain "a.Crate"), "T" ∈ e.vars) (by decide +kernel)
    obtain ⟨us, m, hfrom, hvars⟩ := (mem_vars_membersOf hc).1 _ e he
    obtain ⟨u, d, -, hd, hm, -⟩ := id hfrom
    obtain ⟨n, -, hfind⟩ := Option.bind_eq_some_iff.1 hd
    have hnone := hparams (n, d) (NameMap.mem_of_find? hfind) m hm
    rcases hvars "T" hx with hx' | hx' | hopen
    · exact absurd hx' List.not_mem_nil
    · rw [hnone] at hx'
      exact absurd hx' List.not_mem_nil
    · exact ⟨c, hc, e, he, us, m, hfrom, hx, hnone, hopen⟩
  · obtain ⟨c, hc, hsupertypes, hobject, hdeclared⟩ := exists_of_eval pairs.catalog
      (fun c => (∀ e ∈ c.types.entries, ∀ s ∈ e.2.supertypes, s.name? ≠ none ∧ c.Fits s) ∧
        c.Fits .object ∧ ∃ d ∈ c.find? "a.Pair", c.find? d.qualifiedName = some d)
      (by decide +kernel)
    obtain ⟨d, hd, hself⟩ := hdeclared
    have hw := wellReferenced_of_entries hsupertypes hobject
    obtain ⟨p, hp, hproperties⟩ := (mem_vars_membersOf hc).2 {} "a.Pair" d check_default hd
      fun us u h => hw.fits_of_chain (fits_declaredType hself) h
    refine ⟨c, d, p, hc, hd, hp, fun q hq => ?_⟩
    obtain ⟨e, he, -, htype, hfrom⟩ := hproperties q hq
    exact ⟨e, he, htype, hfrom⟩

end Catalog

end BuilderPlanner
