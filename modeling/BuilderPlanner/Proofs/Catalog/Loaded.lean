import BuilderPlanner.Catalog.Load
import BuilderPlanner.Proofs.NameMap
import BuilderPlanner.Proofs.Success

/-!
# What loading makes of a document

* `Preferences.check_eq_ok_iff` — which preferences pass their check;
* `MethodEntry.declare_eq_ok_iff`, `ConstructorEntry.declare_eq_ok_iff`,
  `TypeEntry.declare_eq_ok_iff` — which described parts become which declarations;
* `Document.catalog_eq_ok_iff`, `Document.declared_of_catalog` — the same for documents;
* `Document.qualifiedName_of_catalog` — a catalog holds every declaration under its own name;
* `Catalog.enclosing?_eq` — the declaration around another is found by its name.
-/

namespace BuilderPlanner

/-! ### Described parts and their declarations -/

theorem require_eq_ok_iff {holds : Bool} {fault : ModelFault} :
    require holds fault = .ok () ↔ holds = true := by
  unfold require
  cases holds <;> simp

theorem Preferences.check_eq_ok_iff {p : Preferences} :
    p.check = .ok () ↔ isIdentifier p.builderName = true := by
  unfold Preferences.check
  cases isIdentifier p.builderName <;> simp

theorem requireTypeParams_eq_ok_iff {place : Place} {params : List String} :
    requireTypeParams place params = .ok () ↔ ∀ p ∈ params, isIdentifier p = true := by
  simp only [requireTypeParams, forM_eq_ok_iff, require_eq_ok_iff]

/-- Which described methods become which methods. -/
theorem MethodEntry.declare_eq_ok_iff {owner : String} {t : TypeEntry} {e : MethodEntry}
    {m : Method} :
    e.declare owner t = .ok m ↔
      isIdentifier e.name = true ∧ atMostOneAccess e.modifiers = true ∧
      (∀ p ∈ e.typeParams, isIdentifier p = true) ∧
      ∃ params, e.params.mapM (readTypeIn (t.typeParams ++ e.typeParams)) = .ok params ∧
      ∃ returns, readTypeIn (t.typeParams ++ e.typeParams) e.returns = .ok returns ∧
        m = ⟨e.name, params, returns, e.modifiers, .ofModifiers e.modifiers t.kind, e.typeParams,
          e.isAbstractIn t.kind⟩ := by
  unfold MethodEntry.declare
  rw [check_bind_eq_ok_iff, check_bind_eq_ok_iff, check_bind_eq_ok_iff, require_eq_ok_iff,
    require_eq_ok_iff, requireTypeParams_eq_ok_iff]
  simp only [bind_eq_ok_iff, pure, Except.pure, Except.ok.injEq, @eq_comm _ _ m]

/-- Which described constructors become which constructors. -/
theorem ConstructorEntry.declare_eq_ok_iff {owner : String} {t : TypeEntry} {e : ConstructorEntry}
    {k : Constructor} :
    e.declare owner t = .ok k ↔
      atMostOneAccess e.modifiers = true ∧
      ∃ params, e.params.mapM (readTypeIn t.typeParams) = .ok params ∧
        k = ⟨params, .ofModifiers e.modifiers .classKind⟩ := by
  unfold ConstructorEntry.declare
  rw [check_bind_eq_ok_iff, require_eq_ok_iff]
  simp only [bind_eq_ok_iff, pure, Except.pure, Except.ok.injEq, @eq_comm _ _ k]

/-- Which described types become which declarations. -/
theorem TypeEntry.declare_eq_ok_iff {name : String} {t : TypeEntry} {d : Declaration} :
    t.declare name = .ok d ↔
      isQualified name = true ∧ atMostOneAccess t.modifiers = true ∧
      (∀ p ∈ t.typeParams, isIdentifier p = true) ∧
      (∀ outer ∈ t.enclosing, isQualified outer = true) ∧
      ∃ supertypes, t.supertypes.mapM (readTypeIn t.typeParams) = .ok supertypes ∧
      ∃ methods, t.methods.mapM (MethodEntry.declare name t) = .ok methods ∧
      ∃ constructors, t.constructors.mapM (ConstructorEntry.declare name t) = .ok constructors ∧
        d = ⟨name, t.kind, t.modifiers, t.typeParams, t.enclosing, supertypes, methods,
          constructors⟩ := by
  unfold TypeEntry.declare
  rw [check_bind_eq_ok_iff, check_bind_eq_ok_iff, check_bind_eq_ok_iff, require_eq_ok_iff,
    require_eq_ok_iff, requireTypeParams_eq_ok_iff]
  cases t.enclosing with
  | none =>
    simp only [bind_eq_ok_iff, pure, Except.pure, Except.ok.injEq, @eq_comm _ _ d,
      Option.mem_def, reduceCtorEq, false_implies, implies_true, true_and]
  | some outer =>
    simp only [check_bind_eq_ok_iff, require_eq_ok_iff]
    simp only [bind_eq_ok_iff, pure, Except.pure, Except.ok.injEq, @eq_comm _ _ d,
      Option.mem_def, Option.some.injEq, forall_eq']

/-! ### Documents and their catalogs -/

theorem requireEnclosing_eq_ok_iff {types : NameMap TypeEntry} {name : String} {t : TypeEntry} :
    requireEnclosing types name t = .ok () ↔ ∀ outer ∈ t.enclosing, outer ∈ types.names := by
  unfold requireEnclosing
  cases t.enclosing with
  | none => simp
  | some outer => simp [require_eq_ok_iff, NameMap.contains_iff_mem_names]

/-- Which documents have which catalogs. -/
theorem Document.catalog_eq_ok_iff {doc : Document} {c : Catalog} :
    doc.catalog = .ok c ↔
      ∃ declarations,
        (doc.types.entries.mapM fun e => (Prod.mk e.1) <$> e.2.declare e.1) = .ok declarations ∧
        (∀ e ∈ doc.types.entries, ∀ outer ∈ e.2.enclosing, outer ∈ doc.types.names) ∧
        c.types =
          if (NameMap.ofList declarations).contains JavaType.objectName then .ofList declarations
          else (NameMap.ofList declarations).insert JavaType.objectName objectDeclaration := by
  have hdeclare : (fun e : String × TypeEntry => (Prod.mk e.1) <$> e.2.declare e.1) =
      fun e => do return (e.1, ← e.2.declare e.1) := by
    funext e
    cases e.2.declare e.1 <;> rfl
  unfold Document.catalog
  rw [hdeclare, bind_eq_ok_iff]
  refine exists_congr fun declarations => and_congr_right fun _ => ?_
  rw [check_bind_eq_ok_iff, forM_eq_ok_iff]
  refine and_congr (forall₂_congr fun e _ => requireEnclosing_eq_ok_iff) ?_
  obtain ⟨types⟩ := c
  have hpure : ∀ types' : NameMap Declaration,
      (pure ⟨types'⟩ : Except Failure Catalog) = .ok ⟨types⟩ ↔ types = types' := by
    intro types'
    constructor
    · intro h
      cases h
      rfl
    · intro h
      rw [h]
      rfl
  by_cases hroot : (NameMap.ofList declarations).contains JavaType.objectName = true
  · simp only [if_pos hroot]
    exact hpure _
  · simp only [if_neg hroot]
    exact hpure _

/-- A declaration of a catalog was described under its name, unless it is the root class. -/
theorem Document.declared_of_catalog {doc : Document} {c : Catalog} (h : doc.catalog = .ok c)
    {name : String} {d : Declaration} (hd : c.find? name = some d) :
    (∃ t, (name, t) ∈ doc.types.entries ∧ t.declare name = .ok d) ∨
      name = JavaType.objectName ∧ d = objectDeclaration := by
  obtain ⟨declarations, hdeclarations, -, htypes⟩ := Document.catalog_eq_ok_iff.1 h
  have hlisted : (name, d) ∈ (NameMap.ofList declarations).entries →
      ∃ t, (name, t) ∈ doc.types.entries ∧ t.declare name = .ok d := by
    intro hmem
    obtain ⟨⟨n, t⟩, ht, hdeclare⟩ :=
      exists_of_mem_of_mapM_eq_ok hdeclarations (NameMap.mem_of_mem_ofList hmem)
    obtain ⟨d', hd', heq⟩ := map_eq_ok_iff.1 hdeclare
    cases heq
    exact ⟨t, ht, hd'⟩
  have hmem := NameMap.mem_of_find? hd
  rw [htypes] at hmem
  split at hmem
  · exact .inl (hlisted hmem)
  · rcases mem_insertEntry hmem with heq | hmem
    · cases heq
      exact .inr ⟨rfl, rfl⟩
    · exact .inl (hlisted hmem)

/-- A catalog holds every declaration under its own name. -/
theorem Document.qualifiedName_of_catalog {doc : Document} {c : Catalog} (h : doc.catalog = .ok c)
    {name : String} {d : Declaration} (hd : c.find? name = some d) : d.qualifiedName = name := by
  rcases Document.declared_of_catalog h hd with ⟨t, -, ht⟩ | ⟨rfl, rfl⟩
  · obtain ⟨-, -, -, -, _, -, _, -, _, -, rfl⟩ := TypeEntry.declare_eq_ok_iff.1 ht
    rfl
  · rfl

/-- The declaration around another is found by its name. -/
theorem Catalog.enclosing?_eq (c : Catalog) (n : String) :
    c.enclosing? n =
      ((c.find? n).bind fun d => d.enclosing.or (outerName? n)).bind c.find? := by
  unfold Catalog.enclosing?
  cases c.find? n with
  | none => rfl
  | some d =>
    simp only [Option.bind_eq_bind, Option.bind_some]
    cases d.enclosing with
    | none => rfl
    | some outer => rfl

end BuilderPlanner
