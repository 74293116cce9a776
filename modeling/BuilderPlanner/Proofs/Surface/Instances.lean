import BuilderPlanner.Proofs.Catalog.Scoped
import BuilderPlanner.Proofs.Declaration.Bindings
import BuilderPlanner.Proofs.Surface.Overriding
import Mathlib.Data.List.Forall2

/-!
# Surfaces of the uses of a declaration

A use of a declaration has the members that the declaration has inside itself, with the arguments of
the use put in place of the type parameters. The two walks visit the same declarations in the same
order, and each visited type of the one is that of the other with the arguments put in.

* `Catalog.WellReferenced` — supertypes have as many arguments as their declarations ask for;
* `Catalog.InstanceOf` — one use of a declaration is another one with types put in for variables;
* `Catalog.Visits.exists_instances` — walks from such uses go through such uses;
* `Catalog.InstanceMember` — the same for members;
* `Catalog.instances_parameterless_membersOf` — the members of a use are those of the declaration
  with the arguments put in.
-/

namespace BuilderPlanner

/-! ### Lists side by side -/

/-- Searches through lists that go side by side find results that belong together. -/
theorem rel_findSome? {α β : Type} {R : α → α → Prop} {S : β → β → Prop} {f : α → Option β}
    (hf : ∀ a' a, R a' a → Option.Rel S (f a') (f a)) {as' as : List α}
    (h : List.Forall₂ R as' as) : Option.Rel S (as'.findSome? f) (as.findSome? f) := by
  induction h with
  | nil => exact .none
  | @cons a' a as' as ha _ ih =>
    have hrel := hf a' a ha
    rw [List.findSome?_cons, List.findSome?_cons]
    generalize f a' = o' at hrel
    generalize f a = o at hrel
    cases hrel with
    | none => exact ih
    | some hs => exact .some hs

/-- Two lists whose keys are the same, each of them once, go side by side as soon as searches for
the same key find what belongs together. -/
theorem forall₂_of_find?_key {α κ : Type} [DecidableEq κ] {key : α → κ} {R : α → α → Prop}
    {as' as : List α} (hkeys : as'.map key = as.map key) (hnodup : (as.map key).Nodup)
    (hfind : ∀ k, Option.Rel R (as'.find? (key · = k)) (as.find? (key · = k))) :
    List.Forall₂ R as' as := by
  have hsame : List.Forall₂ (fun a' a => key a' = key a) as' as := by
    rw [← List.forall₂_map_right_iff, ← List.forall₂_map_left_iff, List.forall₂_eq_eq_eq]
    exact hkeys
  rw [List.forall₂_iff_zip]
  refine ⟨hsame.length_eq, ?_⟩
  intro a' a hzip
  obtain ⟨ha', ha⟩ := List.of_mem_zip hzip
  have hrel := hfind (key a)
  rw [(find?_key_eq_some_iff (hkeys ▸ hnodup)).2 ⟨ha', (List.forall₂_iff_zip.1 hsame).2 hzip⟩,
    (find?_key_eq_some_iff hnodup).2 ⟨ha, rfl⟩] at hrel
  cases hrel with
  | some h => exact h

/-! ### Arguments -/

theorem args_substitute {t : JavaType} (hn : t.name? ≠ none) (σ : String → Option JavaType) :
    (t.substitute σ).args = t.args.map (JavaType.substitute σ) := by
  cases t with
  | named n args =>
    rw [JavaType.substitute, JavaType.substituteAll_eq_map]
    rfl
  | var | array | wildcard | bounded => exact absurd rfl hn

namespace Catalog

/-- A use has as many arguments as its declaration, if there is one, has parameters. -/
def Fits (c : Catalog) (t : JavaType) : Prop :=
  ∀ d ∈ t.name?.bind c.find?, t.args.length = d.typeParams.length

/-- All supertypes are classes or interfaces with as many arguments as they are to have, and the
root class has no parameters. -/
structure WellReferenced (c : Catalog) : Prop where
  named : ∀ n d, c.find? n = some d → ∀ s ∈ d.supertypes, s.name? ≠ none
  fits : ∀ n d, c.find? n = some d → ∀ s ∈ d.supertypes, c.Fits s
  object : c.Fits .object

/-! ### Uses of a declaration -/

/-- The use `u'` of a declaration is the use `u` of it with `τ` put in: a type parameter stands in
`u'` for what it stands for in `u`, with `τ` put in. -/
structure InstanceOf (c : Catalog) (τ : String → Option JavaType) (u' u : JavaType) : Prop where
  name : u'.name? = u.name?
  params : ∀ d ∈ u.name?.bind c.find?, ∀ x ∈ d.typeParams,
    ((JavaType.var x).substitute (d.bindings u.args).lookup).substitute τ =
      (JavaType.var x).substitute (d.bindings u'.args).lookup

section

variable {c : Catalog} {τ : String → Option JavaType} {t u u' : JavaType} {n : String}
  {d : Declaration}

/-- A use that fits makes an instance of itself with whatever is put in. -/
theorem Fits.instanceOf (hfits : c.Fits t) (hn : t.name? ≠ none)
    (τ : String → Option JavaType) : c.InstanceOf τ (t.substitute τ) t := by
  constructor
  · obtain ⟨n, hn⟩ := Option.ne_none_iff_exists'.1 hn
    rw [hn, name?_substitute hn]
  · intro d hd x hx
    obtain ⟨v, hv⟩ := Declaration.exists_lookup (hfits d hd) hx
    rw [args_substitute hn, JavaType.substitute, JavaType.substitute,
      Declaration.lookup_bindings_map, hv]
    rfl

/-- Every use is an instance of the declaration as it is inside itself. -/
theorem instanceOf_declaredType (hd : c.find? d.qualifiedName = some d) (args : List JavaType) :
    c.InstanceOf (d.bindings args).lookup (.named d.qualifiedName args) d.declaredType := by
  refine ⟨rfl, ?_⟩
  intro d' hd' x hx
  obtain rfl : d = d' := Option.some.inj (hd.symm.trans hd')
  have hself : (JavaType.var x).substitute (d.bindings d.declaredType.args).lookup = .var x := by
    show ((d.bindings (d.typeParams.map .var)).lookup x).getD (.var x) = .var x
    rw [Declaration.lookup_bindings_vars hx]
    rfl
  rw [hself]
  rfl

/-- What is in scope in a declaration looks in an instance as it does in the other use, with `τ` put
in. -/
theorem InstanceOf.substitute (h : c.InstanceOf τ u' u) (hn : u.name? = some n)
    (hd : c.find? n = some d) (ht : t.vars ⊆ d.typeParams) :
    (t.substitute (d.bindings u.args).lookup).substitute τ =
      t.substitute (d.bindings u'.args).lookup := by
  have hmem : d ∈ u.name?.bind c.find? := by
    rw [hn]
    exact hd
  exact JavaType.substitute_substitute fun x hx => h.params d hmem x (ht hx)

theorem InstanceOf.supertypesOf (h : c.InstanceOf τ u' u)
    (hc : ∀ n d, c.find? n = some d → d.Scoped) :
    c.supertypesOf u' = (c.supertypesOf u).map (JavaType.substitute τ) := by
  cases hn : u.name? with
  | none =>
    rw [supertypesOf_nameless hn, supertypesOf_nameless (h.name.trans hn)]
    rfl
  | some n =>
    have hn' : u'.name? = some n := h.name.trans hn
    cases hd : c.find? n with
    | none =>
      rw [supertypesOf_undeclared hn hd, supertypesOf_undeclared hn' hd]
      rfl
    | some d =>
      rw [supertypesOf_eq hn hd, supertypesOf_eq hn' hd, List.map_map]
      apply List.map_congr_left
      intro s hs
      exact (h.substitute hn hd ((hc n d hd).supertypes s hs)).symm

/-! ### Walks side by side -/

theorem WellReferenced.of_mem_supertypesOf (hw : c.WellReferenced) {s : JavaType}
    (hs : s ∈ c.supertypesOf t) : s.name? ≠ none ∧ c.Fits s := by
  unfold Catalog.supertypesOf at hs
  split at hs
  · exact absurd hs List.not_mem_nil
  · rename_i d hd
    obtain ⟨n, -, hd⟩ := Option.bind_eq_some_iff.1 hd
    obtain ⟨s, hmem, rfl⟩ := List.mem_map.1 hs
    have hname := hw.named n d hd s hmem
    obtain ⟨k, hk⟩ := Option.ne_none_iff_exists'.1 hname
    have hk' := name?_substitute hk (d.bindings t.args).lookup
    refine ⟨Option.ne_none_iff_exists'.2 ⟨k, hk'⟩, ?_⟩
    intro d' hd'
    rw [args_substitute hname, List.length_map]
    rw [hk', ← hk] at hd'
    exact hw.fits n d hd s hmem d' hd'

theorem InstanceOf.forall₂_supertypesOf (h : c.InstanceOf τ u' u) (hw : c.WellReferenced)
    (hc : ∀ n d, c.find? n = some d → d.Scoped) :
    List.Forall₂ (c.InstanceOf τ) (c.supertypesOf u') (c.supertypesOf u) := by
  rw [h.supertypesOf hc, List.forall₂_map_left_iff, List.forall₂_same]
  intro s hs
  obtain ⟨hname, hfits⟩ := hw.of_mem_supertypesOf hs
  exact hfits.instanceOf hname τ

/-- A walk from instances visits instances of what the other walk visits. Which types are visited
depends on their names only. -/
theorem Visits.exists_instances (hw : c.WellReferenced)
    (hc : ∀ n d, c.find? n = some d → d.Scoped) {pending us : List JavaType}
    {visited : List String} (h : c.Visits pending visited us) {pending' : List JavaType}
    (hpending : List.Forall₂ (c.InstanceOf τ) pending' pending) :
    ∃ us', c.Visits pending' visited us' ∧ List.Forall₂ (c.InstanceOf τ) us' us := by
  induction h generalizing pending' with
  | done visited =>
    cases hpending
    exact ⟨[], .done visited, .nil⟩
  | nameless hn _ ih =>
    obtain _ | ⟨ht, hrest⟩ := hpending
    obtain ⟨us', hus', hinstances⟩ := ih hrest
    exact ⟨us', .nameless (ht.name.trans hn) hus', hinstances⟩
  | again hn hv _ ih =>
    obtain _ | ⟨ht, hrest⟩ := hpending
    obtain ⟨us', hus', hinstances⟩ := ih hrest
    exact ⟨us', .again (ht.name.trans hn) hv hus', hinstances⟩
  | undeclared hn hv hd _ ih =>
    obtain _ | ⟨ht, hrest⟩ := hpending
    obtain ⟨us', hus', hinstances⟩ := ih hrest
    exact ⟨us', .undeclared (ht.name.trans hn) hv hd hus', hinstances⟩
  | first hn hv hd _ ih =>
    obtain _ | ⟨ht, hrest⟩ := hpending
    obtain ⟨us', hus', hinstances⟩ := ih (List.rel_append (ht.forall₂_supertypesOf hw hc) hrest)
    exact ⟨_, .first (ht.name.trans hn) hv hd hus', .cons ht hinstances⟩

end

/-! ### Members side by side -/

/-- The method that a member without parameters comes from: of the type that declares it, the first
of its name. -/
def origin? (c : Catalog) (e : Member) : Option Method :=
  (c.find? e.declaredIn).bind fun d => d.methods.find? fun m => m.name = e.name ∧ m.params = []

/-- The member `e'` is the member `e` with `τ` put in: both come from the same method, and where it
has no type parameters of its own, `e'` returns what `e` returns with `τ` put in. -/
structure InstanceMember (c : Catalog) (τ : String → Option JavaType) (e' e : Member) : Prop where
  rest : e' = { e with returns := e'.returns }
  returns : ∃ m, c.origin? e = some m ∧
    (m.typeParams = [] → e'.returns = e.returns.substitute τ)

section

variable {c : Catalog} {τ : String → Option JavaType} {u u' : JavaType} {us us' : List JavaType}

theorem find?_ownMembers {n : String} {d : Declaration} (hn : u.name? = some n)
    (hd : c.find? n = some d) (name : String) :
    (c.ownMembers u).find? (·.signature = (name, [])) =
      (d.methods.find? fun m => m.name = name ∧ m.params = []).map
        (Method.seenThrough (d.bindings u.args) d.qualifiedName) := by
  rw [ownMembers_eq hn hd, List.find?_map]
  congr 2
  funext m
  exact decide_eq_decide.2 signature_seenThrough

theorem InstanceOf.find?_ownMembers {doc : Document} (hload : doc.catalog = .ok c)
    (h : c.InstanceOf τ u' u) (name : String) :
    Option.Rel (c.InstanceMember τ) ((c.ownMembers u').find? (·.signature = (name, [])))
      ((c.ownMembers u).find? (·.signature = (name, []))) := by
  cases hdeclared : u.name?.bind c.find? with
  | none =>
    have hdeclared' : u'.name?.bind c.find? = none := by rw [h.name, hdeclared]
    rw [ownMembers, ownMembers, hdeclared, hdeclared']
    exact .none
  | some d =>
    obtain ⟨n, hn, hd⟩ := Option.bind_eq_some_iff.1 hdeclared
    rw [Catalog.find?_ownMembers hn hd, Catalog.find?_ownMembers (h.name.trans hn) hd]
    cases hm : d.methods.find? fun m => m.name = name ∧ m.params = [] with
    | none => exact .none
    | some m =>
      have hmatch : m.name = name ∧ m.params = [] := by simpa using List.find?_some hm
      obtain ⟨rfl, hparams⟩ := hmatch
      refine .some ⟨?_, m, ?_, ?_⟩
      · simp [Method.seenThrough, hparams]
      · show (c.find? d.qualifiedName).bind _ = _
        rw [Document.qualifiedName_of_catalog hload hd, hd]
        exact hm
      · intro htypeParams
        have hscoped :=
          (Document.scoped_of_catalog hload hd).methods m (List.mem_of_find?_eq_some hm)
        have hvars : m.returns.vars ⊆ d.typeParams := by
          have hvars := hscoped.returns
          rwa [htypeParams, List.append_nil] at hvars
        simp only [Method.seenThrough, htypeParams, Bindings.without_nil]
        exact (h.substitute hn hd hvars).symm

/-- Instances have the same members without parameters, up to result types. -/
theorem InstanceOf.map_signature_ownMembers (h : c.InstanceOf τ u' u) :
    (parameterless (c.ownMembers u')).map Member.signature =
      (parameterless (c.ownMembers u)).map Member.signature := by
  unfold ownMembers
  rw [h.name]
  cases u.name?.bind c.find? with
  | none => rfl
  | some d =>
    show (parameterless (d.methods.map _)).map _ = (parameterless (d.methods.map _)).map _
    rw [parameterless_map_seenThrough, parameterless_map_seenThrough, List.map_map, List.map_map]
    apply List.map_congr_left
    intro m hm
    have hparams : m.params = [] := List.isEmpty_iff.1 (List.mem_filter.1 hm).2
    simp [Member.signature, Method.seenThrough, hparams]

theorem map_signature_flatMap_ownMembers (h : List.Forall₂ (c.InstanceOf τ) us' us) :
    (parameterless (us'.flatMap c.ownMembers)).map Member.signature =
      (parameterless (us.flatMap c.ownMembers)).map Member.signature := by
  induction h with
  | nil => rfl
  | cons hu _ ih =>
    rw [List.flatMap_cons, List.flatMap_cons, parameterless_append, parameterless_append,
      List.map_append, List.map_append, hu.map_signature_ownMembers, ih]

end

/-- **The members of a use are those of the declaration with the arguments put in.** For every list
of arguments, the members without parameters of the use are, in the same order, those that the
declaration has inside itself. Each comes from the same method, and returns what it returns there
with the arguments in place of the type parameters, unless the method has type parameters of its
own. -/
theorem instances_parameterless_membersOf {doc : Document} {c : Catalog}
    (hload : doc.catalog = .ok c) (hw : c.WellReferenced) {n : String} {d : Declaration}
    (hd : c.find? n = some d) (args : List JavaType) :
    List.Forall₂ (c.InstanceMember (d.bindings args).lookup)
      (parameterless (c.membersOf (.named d.qualifiedName args)))
      (parameterless (c.membersOf d.declaredType)) := by
  obtain rfl := Document.qualifiedName_of_catalog hload hd
  have ht : c.declares d.declaredType = true := Option.isSome_of_eq_some hd
  have ht' : c.declares (.named d.qualifiedName args) = true := Option.isSome_of_eq_some hd
  have hobject : c.InstanceOf (d.bindings args).lookup .object .object :=
    hw.object.instanceOf (Option.some_ne_none _) _
  obtain ⟨us, hus⟩ := c.exists_visits [d.declaredType, .object] []
  obtain ⟨us', hus', hinstances⟩ := hus.exists_instances hw
    (fun n d hd => Document.scoped_of_catalog hload hd)
    (.cons (instanceOf_declaredType hd args) (.cons hobject .nil))
  have hsignatures : (parameterless (c.membersOf (.named d.qualifiedName args))).map
      Member.signature = (parameterless (c.membersOf d.declaredType)).map Member.signature := by
    rw [hus'.membersOf_eq ht', hus.membersOf_eq ht, parameterless_foldl_addMember,
      parameterless_foldl_addMember]
    exact map_signature_foldl_addMember (map_signature_flatMap_ownMembers hinstances) rfl
  have hnames : (parameterless (c.membersOf (.named d.qualifiedName args))).map Member.name =
      (parameterless (c.membersOf d.declaredType)).map Member.name := by
    have hfst := congrArg (List.map Prod.fst) hsignatures
    rwa [List.map_map, List.map_map] at hfst
  refine forall₂_of_find?_key hnames (nodup_name_membersOf c _) ?_
  intro name
  rw [find?_parameterless, find?_parameterless, hus'.find?_membersOf ht', hus.find?_membersOf ht,
    List.find?_flatMap, List.find?_flatMap]
  exact rel_findSome? (fun _ _ h => h.find?_ownMembers hload name) hinstances

/-! ### Arguments that mention the parameters -/

instance (c : Catalog) (t : JavaType) : Decidable (c.Fits t) :=
  inferInstanceAs (Decidable (∀ d ∈ t.name?.bind c.find?, t.args.length = d.typeParams.length))

theorem wellReferenced_of_entries {c : Catalog}
    (h : ∀ e ∈ c.types.entries, ∀ s ∈ e.2.supertypes, s.name? ≠ none ∧ c.Fits s)
    (hobject : c.Fits .object) : c.WellReferenced := by
  refine ⟨?_, ?_, hobject⟩
  · intro n d hd s hs
    exact (h (n, d) (NameMap.mem_of_find? hd) s hs).1
  · intro n d hd s hs
    exact (h (n, d) (NameMap.mem_of_find? hd) s hs).2

/-- A generic interface and an extension of it that permutes and nests its parameters. -/
def pairs : Document where
  types := .ofList [
    ("a.Base",
      { kind := .interfaceKind, typeParams := ["A", "B"]
        methods := [{ name := "first", returns := "A" },
          { name := "second", returns := "java.util.List<B>" },
          { name := "other", typeParams := ["A"], returns := "A" }] }),
    ("a.Pair",
      { kind := .interfaceKind, typeParams := ["A", "B"]
        supertypes := ["a.Base<B, a.Pair<A, B>>"] })]

/-- Arguments that have the names of the parameters, at other places. -/
def crossed : List JavaType := [.var "B", .named "a.Pair" [.var "A", .var "B"]]

/-- The variables of the arguments are not replaced again. -/
theorem crossed_pairs :
    ∃ c, pairs.catalog = .ok c ∧ c.WellReferenced ∧ ∃ d, c.find? "a.Pair" = some d ∧
      List.Forall₂ (c.InstanceMember (d.bindings crossed).lookup)
        (parameterless (c.membersOf (.named d.qualifiedName crossed)))
        (parameterless (c.membersOf d.declaredType)) ∧
      ∃ e ∈ parameterless (c.membersOf (.named d.qualifiedName crossed)),
        e.name = "second" ∧ e.returns.text = "java.util.List<a.Pair<B, a.Pair<A, B>>>" := by
  obtain ⟨c, hc, hsupertypes, hobject, d, hd, hsecond⟩ :=
    exists_of_eval pairs.catalog (fun c =>
      (∀ e ∈ c.types.entries, ∀ s ∈ e.2.supertypes, s.name? ≠ none ∧ c.Fits s) ∧
        c.Fits .object ∧
        ∃ d ∈ c.find? "a.Pair",
          ∃ e ∈ parameterless (c.membersOf (.named d.qualifiedName crossed)),
            e.name = "second" ∧ e.returns.text = "java.util.List<a.Pair<B, a.Pair<A, B>>>")
      (by decide +kernel)
  have hw := wellReferenced_of_entries hsupertypes hobject
  exact ⟨c, hc, hw, d, hd, instances_parameterless_membersOf hc hw hd crossed, hsecond⟩

end Catalog

end BuilderPlanner
