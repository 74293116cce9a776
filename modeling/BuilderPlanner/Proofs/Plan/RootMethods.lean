import BuilderPlanner.Proofs.Plan.OwnGetters
import BuilderPlanner.Proofs.Catalog.Valid

/-!
# Properties with the names of methods of the root class

Members that the root class declares give no properties. But a surface has one member without
parameters of each name, and if another type that is visited before the root class declares such a
method again, the member is that of this type.

* `Catalog.source?`, `Catalog.KeptFrom` — the member of a name, with the declaration and the method
  it comes from;
* `Catalog.exists_keptFrom` — a method of a visited type has such a member;
* `Catalog.KeptFrom.exists_property_iff` — when it gives a property;
* `Catalog.properties_of_root_methods` — the methods of the root class, on all value types.
-/

namespace BuilderPlanner

namespace Catalog

/-! ### Where a member comes from -/

/-- The member of the name `g` without parameters on the surface of `t`, with the declaration that
it comes from and the first such method there. -/
def source? (c : Catalog) (t : JavaType) (g : String) : Option (Member × Declaration × Method) := do
  let e ← (parameterless (c.membersOf t)).find? (·.name = g)
  let k ← c.find? e.declaredIn
  let m ← k.methods.find? fun m => m.name = g ∧ m.params = []
  return (e, k, m)

/-- On the surface of `t`, the member `e` is the one of the name `g` without parameters. It is the
method `m` of the declaration `k`, as it is seen from `t`, and `k` is visited before all other
declarations that have such a method. -/
structure KeptFrom (c : Catalog) (t : JavaType) (g : String) (e : Member) (k : Declaration)
    (m : Method) : Prop where
  source : c.source? t g = some (e, k, m)
  first : c.FirstVisited t (c.HasOwnMethod · g) e.declaredIn
  seen : ∃ args, e = m.seenThrough (k.bindings args) k.qualifiedName

section

variable {doc : Document} {c : Catalog} {t : JavaType} {us : List JavaType} {g : String}
  {e : Member} {k : Declaration} {m : Method}

theorem source?_eq_some_iff : c.source? t g = some (e, k, m) ↔
    (e ∈ parameterless (c.membersOf t) ∧ e.name = g) ∧ c.find? e.declaredIn = some k ∧
      k.methods.find? (fun m => m.name = g ∧ m.params = []) = some m := by
  rw [← find?_key_eq_some_iff (nodup_name_membersOf c t)]
  simp only [source?, Option.bind_eq_bind, Option.bind_eq_some_iff, Option.pure_def,
    Option.some.injEq, Prod.mk.injEq]
  constructor
  · rintro ⟨e, he, k, hk, m, hm, rfl, rfl, rfl⟩
    exact ⟨he, hk, hm⟩
  · rintro ⟨he, hk, hm⟩
    exact ⟨e, he, k, hk, m, hm, rfl, rfl, rfl⟩

/-- What a walk finds first under a name is kept. -/
theorem exists_keptFrom_of_mem (hload : doc.catalog = .ok c) (ht : c.declares t = true)
    (hus : c.Visits [t, .object] [] us) (he : e ∈ parameterless (c.membersOf t)) :
    ∃ k m, c.KeptFrom t e.name e k m := by
  obtain ⟨_, u, _, -, hfind, -⟩ := (mem_parameterless_membersOf_iff ht hus).1 ⟨he, rfl⟩
  obtain ⟨n, hn, d, hd, -⟩ := find?_ownMembers_isSome.1 (Option.isSome_of_eq_some hfind)
  rw [find?_ownMembers hn hd] at hfind
  obtain ⟨m, hm, heq⟩ := Option.map_eq_some_iff.1 hfind
  have hdeclared : c.find? e.declaredIn = some d := by
    have howner : e.declaredIn = d.qualifiedName := congrArg Member.declaredIn heq.symm
    rw [howner, Document.qualifiedName_of_catalog hload hd, hd]
  refine ⟨d, m, source?_eq_some_iff.2 ⟨⟨he, rfl⟩, hdeclared, hm⟩, ?_, _, heq.symm⟩
  exact (declaredIn_eq_iff (fun _ _ h => Document.qualifiedName_of_catalog hload h) ht he).1 rfl

/-- Of the methods of the visited types one is kept for each name. -/
theorem exists_keptFrom (hload : doc.catalog = .ok c) (ht : c.declares t = true)
    (hus : c.Visits [t, .object] [] us) {u : JavaType} (hu : u ∈ us) {n : String}
    (hn : u.name? = some n) (hown : c.HasOwnMethod n g) : ∃ e k m, c.KeptFrom t g e k m := by
  obtain ⟨d, hd, m, hm, rfl, hparams⟩ := hown
  obtain ⟨e, ⟨he, hname⟩, -⟩ := hus.existsUnique_parameterless ht hu hn hd hm hparams
  exact hname ▸ ⟨e, exists_keptFrom_of_mem hload ht hus he⟩

/-- Every walk visits the root class, at the latest after all supertypes. -/
theorem exists_keptFrom_root (hload : doc.catalog = .ok c) (ht : c.declares t = true)
    (hroot : c.HasOwnMethod JavaType.objectName g) : ∃ e k m, c.KeptFrom t g e k m := by
  obtain ⟨us, hus⟩ := c.exists_visits [t, .object] []
  rcases hus.settled_of_mem (t := .object) (by simp) rfl with hvisited | hnone | ⟨u, hu, hn⟩
  · exact absurd hvisited List.not_mem_nil
  · exact absurd hnone hroot.ne_none
  · exact exists_keptFrom hload ht hus hu hn hroot

/-! ### When it gives a property -/

theorem KeptFrom.isGetter_iff (hload : doc.catalog = .ok c) (h : c.KeptFrom t g e k m) :
    e.isGetter = true ↔ e.declaredIn ≠ JavaType.objectName ∧ m.LacksBody k.kind ∧
      .isStatic ∉ m.modifiers ∧ e.returns ≠ .plain "void" := by
  obtain ⟨⟨hmem, -⟩, hk, hm⟩ := source?_eq_some_iff.1 h.source
  have habstract : e.isAbstract = true ↔ m.LacksBody k.kind := by
    rw [← Document.isAbstract_iff_of_catalog hload hk (List.mem_of_find?_eq_some hm)]
    obtain ⟨args, rfl⟩ := h.seen
    rfl
  have hmodifiers : e.modifiers = m.modifiers := by
    obtain ⟨args, rfl⟩ := h.seen
    rfl
  rw [Member.isGetter_iff, habstract, hmodifiers]
  constructor
  · intro hgetter
    obtain ⟨hbody, -, hstatic, hvoid, hroot⟩ := hgetter
    exact ⟨hroot, hbody, hstatic, hvoid⟩
  · intro hgives
    obtain ⟨hroot, hbody, hstatic, hvoid⟩ := hgives
    exact ⟨hbody, (mem_parameterless.1 hmem).2, hstatic, hvoid, hroot⟩

/-- A property is called by its getter as the kept member is called. -/
theorem KeptFrom.exists_property_iff (hload : doc.catalog = .ok c) {d : Declaration}
    (h : c.KeptFrom d.declaredType g e k m) (preferences : Preferences) (valueType : String) :
    (∃ q ∈ (c.planFor preferences valueType d).properties, q.getter = g) ↔
      e.declaredIn ≠ JavaType.objectName ∧ m.LacksBody k.kind ∧ .isStatic ∉ m.modifiers ∧
        e.returns ≠ .plain "void" := by
  have hgetters : (∃ q ∈ (c.planFor preferences valueType d).properties, q.getter = g) ↔
      ∃ e' ∈ c.gettersOf d, e'.name = g := by
    rw [← List.mem_map, map_getter_properties_planFor, List.mem_map]
  obtain ⟨⟨hmem, hname⟩, -⟩ := source?_eq_some_iff.1 h.source
  rw [hgetters, ← h.isGetter_iff hload]
  constructor
  · intro hgetter
    obtain ⟨e', he', hname'⟩ := hgetter
    obtain ⟨hmem', hgetter⟩ := List.mem_filter.1 he'
    have hparams := (Member.isGetter_iff.1 hgetter).2.1
    rwa [eq_of_name_eq (nodup_name_membersOf c _) hmem (mem_parameterless.2 ⟨hmem', hparams⟩)
      (hname.trans hname'.symm)]
  · intro hgetter
    exact ⟨e, List.mem_filter.2 ⟨(mem_parameterless.1 hmem).1, hgetter⟩, hname⟩

end

/-- **Which methods of the root class become properties.** A declared value type has a plan. For
every method without parameters that the root class declares, the surface of the value type keeps
one of its name, that of the type which is visited first. If this is the root class, the plan has no
property for it. If it is another type that declares the method again, there is a property exactly
if its method is abstract and of instances and has a result. -/
theorem properties_of_root_methods {doc : Document} {c : Catalog} (hload : doc.catalog = .ok c)
    {preferences : Preferences} (hcheck : preferences.check = .ok ()) {valueType : String}
    {d : Declaration} (hd : c.find? valueType = some d) :
    ∃ p, c.plan preferences valueType = .ok p ∧
      ∀ g, c.HasOwnMethod JavaType.objectName g →
        ∃ e k m, c.KeptFrom d.declaredType g e k m ∧
          ((∃ q ∈ p.properties, q.getter = g) ↔
            e.declaredIn ≠ JavaType.objectName ∧ m.LacksBody k.kind ∧ .isStatic ∉ m.modifiers ∧
              e.returns ≠ .plain "void") := by
  have ht : c.declares d.declaredType = true := by
    rw [declares_eq (n := d.qualifiedName) rfl, Document.qualifiedName_of_catalog hload hd, hd]
    rfl
  refine ⟨_, plan_eq_ok hcheck hd, fun g hroot => ?_⟩
  obtain ⟨e, k, m, hkept⟩ := exists_keptFrom_root hload ht hroot
  exact ⟨e, k, m, hkept, hkept.exists_property_iff hload preferences valueType⟩

/-- A class that writes one of the methods of the root class, and an interface above it that
declares another one again. -/
def carDocument : Document where
  types := .ofList [
    ("a.Named",
      { kind := .interfaceKind
        methods := [{ name := "toString", returns := "java.lang.String" }] }),
    ("a.Car",
      { modifiers := [.isAbstract], supertypes := ["a.Named"]
        methods := [{ name := "hashCode", returns := "int" }] })]

/-- It has a property for the method that is declared again and none for the written one. -/
theorem properties_of_car :
    ∃ c p, carDocument.catalog = .ok c ∧ c.plan {} "a.Car" = .ok p ∧
      c.HasOwnMethod JavaType.objectName "toString" ∧
      c.HasOwnMethod JavaType.objectName "hashCode" ∧
      (∃ q ∈ p.properties, q.getter = "toString") ∧ ¬∃ q ∈ p.properties, q.getter = "hashCode" := by
  obtain ⟨c, hc, d, hd, htext, hcode, ⟨⟨e, k, m⟩, hnamed, hgives⟩, ⟨e', k', m'⟩, hwritten, hnot⟩ :=
    exists_of_eval carDocument.catalog (fun c => ∃ d ∈ c.find? "a.Car",
      c.HasOwnMethod JavaType.objectName "toString" ∧
      c.HasOwnMethod JavaType.objectName "hashCode" ∧
      (∃ w ∈ c.source? d.declaredType "toString",
        w.1.declaredIn ≠ JavaType.objectName ∧ w.2.2.LacksBody w.2.1.kind ∧
          .isStatic ∉ w.2.2.modifiers ∧ w.1.returns ≠ .plain "void") ∧
      ∃ w ∈ c.source? d.declaredType "hashCode", ¬w.2.2.LacksBody w.2.1.kind)
    (by decide +kernel)
  obtain ⟨p, hp, hroot⟩ := properties_of_root_methods hc check_default hd
  refine ⟨c, p, hc, hp, htext, hcode, ?_, ?_⟩
  · obtain ⟨_, _, _, hkept, hiff⟩ := hroot "toString" htext
    cases hkept.source.symm.trans hnamed
    exact hiff.2 hgives
  · obtain ⟨_, _, _, hkept, hiff⟩ := hroot "hashCode" hcode
    cases hkept.source.symm.trans hwritten
    exact fun h => hnot (hiff.1 h).2.1

/-- An interface that declares a method of the root class again has a property for it. -/
theorem getter_named_hashCode :
    ∃ c, (oneGetter "hashCode").catalog = .ok c ∧ ({} : Preferences).check = .ok () ∧
      c.HasOwnMethod JavaType.objectName "hashCode" ∧
      ∃ p, c.plan {} "a.House" = .ok p ∧ ∃ q ∈ p.properties, q.getter = "hashCode" := by
  obtain ⟨c, hc, hcode, p, hp, hgetter⟩ := exists_of_eval (oneGetter "hashCode").catalog
    (fun c => c.HasOwnMethod JavaType.objectName "hashCode" ∧
      ∃ p ∈ (c.plan {} "a.House").toOption, ∃ q ∈ p.properties, q.getter = "hashCode")
    (by decide +kernel)
  exact ⟨c, hc, check_default, hcode, p, toOption_eq_some_iff.1 hp, hgetter⟩

end Catalog

end BuilderPlanner
