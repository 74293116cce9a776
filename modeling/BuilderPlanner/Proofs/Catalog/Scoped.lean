import BuilderPlanner.Proofs.Catalog.Loaded
import BuilderPlanner.Proofs.JavaType.Variables

/-!
# Type variables of declarations

* `Declaration.typesInScope` — the types in a declaration, each with the variables in scope there;
* `Declaration.Scoped` — a declaration uses variables of its own type parameters only, a method of
  it also those of its own;
* `Document.read_of_catalog` — the types in the declarations of a catalog were read in their scopes;
* `Document.scoped_of_catalog` — so these declarations are scoped.
-/

namespace BuilderPlanner

/-! ### Scopes -/

/-- The types in a declaration, each with the type variables that are in scope where it stands. -/
def Declaration.typesInScope (d : Declaration) : List (List String × JavaType) :=
  d.supertypes.map (Prod.mk d.typeParams) ++
    d.methods.flatMap
      (fun m => (m.params ++ [m.returns]).map (Prod.mk (d.typeParams ++ m.typeParams))) ++
    d.constructors.flatMap fun k => k.params.map (Prod.mk d.typeParams)

/-- The variables of a method are type parameters of it or of its declaration. -/
structure Method.Scoped (typeParams : List String) (m : Method) : Prop where
  params : ∀ p ∈ m.params, p.vars ⊆ typeParams ++ m.typeParams
  returns : m.returns.vars ⊆ typeParams ++ m.typeParams

/-- The variables of a declaration are type parameters of it, or of the method that they occur
in. -/
structure Declaration.Scoped (d : Declaration) : Prop where
  supertypes : ∀ s ∈ d.supertypes, s.vars ⊆ d.typeParams
  methods : ∀ m ∈ d.methods, m.Scoped d.typeParams
  constructors : ∀ k ∈ d.constructors, ∀ p ∈ k.params, p.vars ⊆ d.typeParams

/-- What holds of all types in a declaration holds of those in each of its parts. -/
theorem Declaration.forall_typesInScope {d : Declaration} {P : List String → JavaType → Prop} :
    (∀ e ∈ d.typesInScope, P e.1 e.2) ↔
      (∀ s ∈ d.supertypes, P d.typeParams s) ∧
      (∀ m ∈ d.methods, (∀ p ∈ m.params, P (d.typeParams ++ m.typeParams) p) ∧
        P (d.typeParams ++ m.typeParams) m.returns) ∧
      ∀ k ∈ d.constructors, ∀ p ∈ k.params, P d.typeParams p := by
  simp only [typesInScope, List.forall_mem_append, List.forall_mem_map, List.forall_mem_flatMap,
    List.forall_mem_singleton, and_assoc]

theorem Declaration.returns_mem_typesInScope {d : Declaration} {m : Method}
    (hm : m ∈ d.methods) : (d.typeParams ++ m.typeParams, m.returns) ∈ d.typesInScope := by
  simp only [typesInScope, List.mem_append, List.mem_flatMap, List.mem_map]
  exact .inl (.inr ⟨m, hm, m.returns, by simp, rfl⟩)

theorem Declaration.scoped_iff {d : Declaration} :
    d.Scoped ↔ ∀ e ∈ d.typesInScope, e.2.vars ⊆ e.1 := by
  rw [Declaration.forall_typesInScope (P := fun scope t => t.vars ⊆ scope)]
  constructor
  · intro h
    exact ⟨h.supertypes, fun m hm => ⟨(h.methods m hm).params, (h.methods m hm).returns⟩,
      h.constructors⟩
  · intro h
    obtain ⟨hs, hm, hk⟩ := h
    exact ⟨hs, fun m hmem => ⟨(hm m hmem).1, (hm m hmem).2⟩, hk⟩

/-! ### Scopes of what is declared -/

/-- The types in a declaration were read in their scopes. -/
theorem TypeEntry.read_of_declare {name : String} {t : TypeEntry} {d : Declaration}
    (h : t.declare name = .ok d) :
    ∀ e ∈ d.typesInScope, ∃ text, readTypeIn e.1 text = .ok e.2 := by
  obtain ⟨-, -, -, -, supertypes, hs, methods, hm, constructors, hk, rfl⟩ :=
    TypeEntry.declare_eq_ok_iff.1 h
  have hread : ∀ {scope texts : List String} {ts : List JavaType},
      texts.mapM (readTypeIn scope) = .ok ts → ∀ u ∈ ts, ∃ text, readTypeIn scope text = .ok u := by
    intro scope texts ts hts u hu
    obtain ⟨text, -, htext⟩ := exists_of_mem_of_mapM_eq_ok hts hu
    exact ⟨text, htext⟩
  rw [Declaration.forall_typesInScope (P := fun scope u => ∃ text, readTypeIn scope text = .ok u)]
  refine ⟨hread hs, ?_, ?_⟩
  · intro m hmem
    obtain ⟨e, -, he⟩ := exists_of_mem_of_mapM_eq_ok hm hmem
    obtain ⟨-, -, -, params, hparams, returns, hreturns, rfl⟩ := MethodEntry.declare_eq_ok_iff.1 he
    exact ⟨hread hparams, e.returns, hreturns⟩
  · intro k hmem
    obtain ⟨e, -, he⟩ := exists_of_mem_of_mapM_eq_ok hk hmem
    obtain ⟨-, params, hparams, rfl⟩ := ConstructorEntry.declare_eq_ok_iff.1 he
    exact hread hparams

/-- The types in the root class are read from their own texts. -/
theorem read_objectDeclaration :
    ∀ e ∈ objectDeclaration.typesInScope, ∃ text, readTypeIn e.1 text = .ok e.2 := by
  have hread : ∀ e ∈ objectDeclaration.typesInScope,
      (readTypeIn e.1 e.2.text).toOption = some e.2 := by decide +kernel
  intro e he
  exact ⟨e.2.text, toOption_eq_some_iff.1 (hread e he)⟩

/-- The types in the declarations of a catalog were read in their scopes. -/
theorem Document.read_of_catalog {doc : Document} {c : Catalog} (h : doc.catalog = .ok c)
    {name : String} {d : Declaration} (hd : c.find? name = some d) :
    ∀ e ∈ d.typesInScope, ∃ text, readTypeIn e.1 text = .ok e.2 := by
  rcases Document.declared_of_catalog h hd with ⟨t, -, ht⟩ | ⟨-, rfl⟩
  · exact TypeEntry.read_of_declare ht
  · exact read_objectDeclaration

/-- All variables in a catalog are in scope where they occur. -/
theorem Document.scoped_of_catalog {doc : Document} {c : Catalog} (h : doc.catalog = .ok c)
    {name : String} {d : Declaration} (hd : c.find? name = some d) : d.Scoped := by
  rw [Declaration.scoped_iff]
  intro e he
  obtain ⟨text, htext⟩ := Document.read_of_catalog h hd e he
  exact JavaType.vars_subset_of_ofTextIn (mapError_eq_ok_iff.1 htext)

end BuilderPlanner
