import BuilderPlanner.Proofs.Catalog.Scoped
import BuilderPlanner.Proofs.Name.Identifier

/-!
# Which documents are loaded

Checks are made one after the other, and the first that fails ends the loading. What they amount to
is said here without an order.

* `MethodEntry.Valid`, `ConstructorEntry.Valid`, `TypeEntry.Valid`, `Document.Valid` — what the parts
  of a document must keep to;
* `MethodEntry.exists_declare_iff`, `ConstructorEntry.exists_declare_iff`,
  `TypeEntry.exists_declare_iff`, `Document.exists_catalog_iff` — the parts that keep to it are
  accepted, and no others;
* `Document.Describes` — what can be relied on in the catalog of a document;
* `Document.load_iff_valid` — the valid documents are loaded, and their catalogs are as described.
-/

namespace BuilderPlanner

/-! ### Valid documents -/

/-- A text that is read as a type. -/
def IsTypeText (text : String) : Prop := ∃ t, readType text = .ok t

structure MethodEntry.Valid (m : MethodEntry) : Prop where
  name : isIdentifier m.name = true
  access : m.modifiers.countP Modifier.isAccess ≤ 1
  typeParams : ∀ p ∈ m.typeParams, isIdentifier p = true
  params : ∀ p ∈ m.params, IsTypeText p
  returns : IsTypeText m.returns

structure ConstructorEntry.Valid (k : ConstructorEntry) : Prop where
  access : k.modifiers.countP Modifier.isAccess ≤ 1
  params : ∀ p ∈ k.params, IsTypeText p

structure TypeEntry.Valid (name : String) (t : TypeEntry) : Prop where
  name : IsDotted name
  access : t.modifiers.countP Modifier.isAccess ≤ 1
  typeParams : ∀ p ∈ t.typeParams, isIdentifier p = true
  enclosing : ∀ outer ∈ t.enclosing, IsDotted outer
  supertypes : ∀ s ∈ t.supertypes, IsTypeText s
  methods : ∀ m ∈ t.methods, m.Valid
  constructors : ∀ k ∈ t.constructors, k.Valid

structure Document.Valid (doc : Document) : Prop where
  builderName : isIdentifier doc.preferences.builderName = true
  types : ∀ e ∈ doc.types.entries, e.2.Valid e.1
  /-- Enclosing types are described in the document itself. -/
  enclosing : ∀ e ∈ doc.types.entries, ∀ outer ∈ e.2.enclosing, outer ∈ doc.types.names

/-! ### What is accepted -/

/-- Whether a text is read as a type does not depend on the variables in scope. -/
theorem exists_readTypeIn_iff {scope : List String} {text : String} :
    (∃ t, readTypeIn scope text = .ok t) ↔ IsTypeText text := by
  have hscope : ∀ scope, (∃ t, readTypeIn scope text = .ok t) ↔
      ∃ t, JavaType.ofText text = .ok t := by
    intro scope
    simp only [readTypeIn, mapError_eq_ok_iff, JavaType.ofTextIn, map_eq_ok_iff]
    constructor
    · intro h
      obtain ⟨-, t, ht, -⟩ := h
      exact ⟨t, ht⟩
    · intro h
      obtain ⟨t, ht⟩ := h
      exact ⟨t.bind scope, t, ht, rfl⟩
  rw [hscope, IsTypeText, readType, hscope]

theorem exists_mapM_readTypeIn_iff {scope texts : List String} :
    (∃ ts, texts.mapM (readTypeIn scope) = .ok ts) ↔ ∀ text ∈ texts, IsTypeText text := by
  simp only [exists_mapM_eq_ok_iff, exists_readTypeIn_iff]

theorem atMostOneAccess_iff {modifiers : List Modifier} :
    atMostOneAccess modifiers = true ↔ modifiers.countP Modifier.isAccess ≤ 1 := by
  rw [atMostOneAccess, decide_eq_true_iff]

theorem MethodEntry.exists_declare_iff {owner : String} {t : TypeEntry} {e : MethodEntry} :
    (∃ m, e.declare owner t = .ok m) ↔ e.Valid := by
  simp only [MethodEntry.declare_eq_ok_iff, atMostOneAccess_iff]
  constructor
  · intro h
    obtain ⟨-, hname, haccess, htypeParams, params, hparams, returns, hreturns, -⟩ := h
    exact ⟨hname, haccess, htypeParams, exists_mapM_readTypeIn_iff.1 ⟨params, hparams⟩,
      exists_readTypeIn_iff.1 ⟨returns, hreturns⟩⟩
  · intro h
    obtain ⟨params, hparams⟩ := exists_mapM_readTypeIn_iff.2 h.params
    obtain ⟨returns, hreturns⟩ := exists_readTypeIn_iff.2 h.returns
    exact ⟨_, h.name, h.access, h.typeParams, params, hparams, returns, hreturns, rfl⟩

theorem ConstructorEntry.exists_declare_iff {owner : String} {t : TypeEntry}
    {e : ConstructorEntry} : (∃ k, e.declare owner t = .ok k) ↔ e.Valid := by
  simp only [ConstructorEntry.declare_eq_ok_iff, atMostOneAccess_iff]
  constructor
  · intro h
    obtain ⟨-, haccess, params, hparams, -⟩ := h
    exact ⟨haccess, exists_mapM_readTypeIn_iff.1 ⟨params, hparams⟩⟩
  · intro h
    obtain ⟨params, hparams⟩ := exists_mapM_readTypeIn_iff.2 h.params
    exact ⟨_, h.access, params, hparams, rfl⟩

theorem TypeEntry.exists_declare_iff {name : String} {t : TypeEntry} :
    (∃ d, t.declare name = .ok d) ↔ t.Valid name := by
  have hmethods : (∃ ms, t.methods.mapM (MethodEntry.declare name t) = .ok ms) ↔
      ∀ m ∈ t.methods, m.Valid := by
    simp only [exists_mapM_eq_ok_iff, MethodEntry.exists_declare_iff]
  have hconstructors : (∃ ks, t.constructors.mapM (ConstructorEntry.declare name t) = .ok ks) ↔
      ∀ k ∈ t.constructors, k.Valid := by
    simp only [exists_mapM_eq_ok_iff, ConstructorEntry.exists_declare_iff]
  simp only [TypeEntry.declare_eq_ok_iff, atMostOneAccess_iff, isQualified_iff]
  constructor
  · intro h
    obtain ⟨-, hname, haccess, htypeParams, henclosing, ss, hs, ms, hm, ks, hk, -⟩ := h
    exact ⟨hname, haccess, htypeParams, henclosing, exists_mapM_readTypeIn_iff.1 ⟨ss, hs⟩,
      hmethods.1 ⟨ms, hm⟩, hconstructors.1 ⟨ks, hk⟩⟩
  · intro h
    obtain ⟨ss, hs⟩ := exists_mapM_readTypeIn_iff.2 h.supertypes
    obtain ⟨ms, hm⟩ := hmethods.2 h.methods
    obtain ⟨ks, hk⟩ := hconstructors.2 h.constructors
    exact ⟨_, h.name, h.access, h.typeParams, h.enclosing, ss, hs, ms, hm, ks, hk, rfl⟩

theorem Document.exists_catalog_iff {doc : Document} :
    (∃ c, doc.catalog = .ok c) ↔
      (∀ e ∈ doc.types.entries, e.2.Valid e.1) ∧
        ∀ e ∈ doc.types.entries, ∀ outer ∈ e.2.enclosing, outer ∈ doc.types.names := by
  have hdeclare : (∃ ds, (doc.types.entries.mapM fun e => Prod.mk e.1 <$> e.2.declare e.1) =
      .ok ds) ↔ ∀ e ∈ doc.types.entries, e.2.Valid e.1 := by
    rw [exists_mapM_eq_ok_iff]
    refine forall₂_congr fun e _ => ?_
    rw [← TypeEntry.exists_declare_iff]
    constructor
    · intro h
      obtain ⟨_, h⟩ := h
      obtain ⟨d, hd, -⟩ := map_eq_ok_iff.1 h
      exact ⟨d, hd⟩
    · intro h
      obtain ⟨d, hd⟩ := h
      exact ⟨(e.1, d), map_eq_ok_iff.2 ⟨d, hd, rfl⟩⟩
  simp only [Document.catalog_eq_ok_iff]
  constructor
  · intro h
    obtain ⟨-, ds, hds, henclosing, -⟩ := h
    exact ⟨hdeclare.1 ⟨ds, hds⟩, henclosing⟩
  · intro h
    obtain ⟨ds, hds⟩ := hdeclare.2 h.1
    exact ⟨⟨_⟩, ds, hds, h.2, rfl⟩

/-! ### What a catalog holds -/

/-- The types that are described and the root class are declared, and no others. -/
theorem Document.isSome_find?_iff {doc : Document} {c : Catalog} (h : doc.catalog = .ok c)
    {name : String} :
    (c.find? name).isSome = true ↔ name ∈ doc.types.names ∨ name = JavaType.objectName := by
  obtain ⟨declarations, hdeclarations, -, htypes⟩ := Document.catalog_eq_ok_iff.1 h
  have hnames : declarations.map Prod.fst = doc.types.names := by
    refine map_eq_of_mapM_eq_ok (fun e y he => ?_) hdeclarations
    obtain ⟨d, -, rfl⟩ := map_eq_ok_iff.1 he
    rfl
  show c.types.contains name = true ↔ _
  rw [htypes, ← hnames]
  split
  · rename_i hroot
    rw [NameMap.contains_ofList] at hroot ⊢
    constructor
    · exact .inl
    · intro h
      rcases h with h | rfl
      · exact h
      · exact hroot
  · rw [NameMap.contains_insert, NameMap.contains_ofList, or_comm]

/-- What can be relied on in the catalog of a document. -/
structure Document.Describes (doc : Document) (c : Catalog) : Prop where
  /-- The types that are described and the root class are declared, and no others. -/
  names : ∀ n, (c.find? n).isSome = true ↔ n ∈ doc.types.names ∨ n = JavaType.objectName
  /-- Each is declared as it is described; the root class need not be. -/
  declared : ∀ n d, c.find? n = some d →
    (∃ t, (n, t) ∈ doc.types.entries ∧ t.declare n = .ok d) ∨
      n = JavaType.objectName ∧ d = objectDeclaration
  qualifiedName : ∀ n d, c.find? n = some d → d.qualifiedName = n
  /-- Variables are in scope where they occur. -/
  inScope : ∀ n d, c.find? n = some d → d.Scoped
  /-- A name in scope is taken for a class nowhere, unless it has arguments. -/
  bound : ∀ n d, c.find? n = some d → ∀ e ∈ d.typesInScope, ∀ x ∈ e.1, x ∉ e.2.plainNames
  enclosing : ∀ n d, c.find? n = some d → ∀ outer ∈ d.enclosing, (c.find? outer).isSome = true

theorem Document.describes_of_catalog {doc : Document} {c : Catalog} (h : doc.catalog = .ok c) :
    doc.Describes c where
  names _ := Document.isSome_find?_iff h
  declared _ _ hd := Document.declared_of_catalog h hd
  qualifiedName _ _ hd := Document.qualifiedName_of_catalog h hd
  inScope _ _ hd := Document.scoped_of_catalog h hd
  bound n d hd e he x hx := by
    obtain ⟨text, htext⟩ := Document.read_of_catalog h hd e he
    exact JavaType.not_mem_plainNames_of_ofTextIn (mapError_eq_ok_iff.1 htext) hx
  enclosing n d hd outer houter := by
    obtain ⟨_, -, henclosing, -⟩ := Document.catalog_eq_ok_iff.1 h
    rcases Document.declared_of_catalog h hd with ⟨t, hmem, ht⟩ | ⟨-, rfl⟩
    · obtain ⟨-, -, -, -, _, -, _, -, _, -, rfl⟩ := TypeEntry.declare_eq_ok_iff.1 ht
      exact (Document.isSome_find?_iff h).2 (.inl (henclosing (n, t) hmem outer houter))
    · cases houter

/-- **Exactly the valid documents are loaded.** The preferences of a document stay as they are, and
in its catalog the types that are described and the root class are declared, each under its own
name, all variables are in scope, and no name in scope is left as the name of a class. -/
theorem Document.load_iff_valid (doc : Document) :
    ((∃ l, doc.load = .ok l) ↔ doc.Valid) ∧
      ∀ l, doc.load = .ok l → l.preferences = doc.preferences ∧ doc.Describes l.catalog := by
  have hload : ∀ l, doc.load = .ok l ↔ isIdentifier doc.preferences.builderName = true ∧
      ∃ c, doc.catalog = .ok c ∧ l = ⟨doc.preferences, c⟩ := by
    intro l
    rw [Document.load, check_bind_eq_ok_iff, Preferences.check_eq_ok_iff, bind_eq_ok_iff]
    constructor
    · rintro ⟨hname, c, hc, ⟨⟩⟩
      exact ⟨hname, c, hc, rfl⟩
    · rintro ⟨hname, c, hc, rfl⟩
      exact ⟨hname, c, hc, rfl⟩
  refine ⟨?_, ?_⟩
  · constructor
    · intro h
      obtain ⟨l, hl⟩ := h
      obtain ⟨hname, c, hc, -⟩ := (hload l).1 hl
      obtain ⟨htypes, henclosing⟩ := Document.exists_catalog_iff.1 ⟨c, hc⟩
      exact ⟨hname, htypes, henclosing⟩
    · intro h
      obtain ⟨c, hc⟩ := Document.exists_catalog_iff.2 ⟨h.types, h.enclosing⟩
      exact ⟨_, (hload _).2 ⟨h.builderName, c, hc, rfl⟩⟩
  · intro l hl
    obtain ⟨-, c, hc, rfl⟩ := (hload l).1 hl
    exact ⟨rfl, Document.describes_of_catalog hc⟩

end BuilderPlanner
