import BuilderPlanner.Proofs.Catalog.Loaded
import Mathlib.Data.List.Perm.Basic

/-!
# Methods and constructors in another order

A document may list the methods and the constructors of a type in any order. The catalog of another
order differs from the catalog of the first in these orders only.

* `TypeEntry.Reordered`, `Document.Reordered` — descriptions that differ in these orders;
* `Declaration.Reordered`, `Catalog.Reordered` — the same for what is made of them;
* `NameMap.rel_ofList` — maps of related lists are related;
* `Document.reordered_catalog` — a document is loaded in every order if it is loaded in one.
-/

namespace BuilderPlanner

/-! ### Related lists of entries -/

/-- Two lists of entries have the same names in the same order, and related values. -/
def EntriesRel {α β : Type} (R : α → β → Prop) : List (String × α) → List (String × β) → Prop :=
  List.Forall₂ fun e e' => e.1 = e'.1 ∧ R e.2 e'.2

variable {α β : Type} {R : α → β → Prop}

/-- What is the same for related entries is the same for related lists. -/
theorem EntriesRel.map_eq {γ : Type} {f : String × α → γ} {g : String × β → γ}
    (hfg : ∀ e e', e.1 = e'.1 → R e.2 e'.2 → f e = g e') {es : List (String × α)}
    {es' : List (String × β)} (h : EntriesRel R es es') : es.map f = es'.map g := by
  induction h with
  | nil => rfl
  | cons he _ ih => rw [List.map_cons, List.map_cons, hfg _ _ he.1 he.2, ih]

theorem EntriesRel.lookup {es : List (String × α)} {es' : List (String × β)}
    (h : EntriesRel R es es') (name : String) :
    Option.Rel R (es.lookup name) (es'.lookup name) := by
  induction h with
  | nil => exact .none
  | cons he _ ih =>
    rw [List.lookup_cons, List.lookup_cons, ← he.1]
    split
    · exact .some he.2
    · exact ih

theorem EntriesRel.insertEntry {es : List (String × α)} {es' : List (String × β)}
    (h : EntriesRel R es es') (name : String) {a : α} {b : β} (hab : R a b) :
    EntriesRel R (insertEntry name a es) (insertEntry name b es') := by
  induction h with
  | nil => exact .cons ⟨rfl, hab⟩ .nil
  | cons he hrest ih =>
    simp only [BuilderPlanner.insertEntry, ← he.1]
    split
    · exact .cons ⟨rfl, hab⟩ (.cons he hrest)
    · split
      · exact .cons ⟨rfl, hab⟩ hrest
      · exact .cons he ih

/-- Maps of related lists are related. -/
theorem NameMap.rel_ofList {es : List (String × α)} {es' : List (String × β)}
    (h : EntriesRel R es es') : EntriesRel R (ofList es).entries (ofList es').entries := by
  have hfoldl : ∀ (m : NameMap α) (m' : NameMap β), EntriesRel R m.entries m'.entries →
      EntriesRel R (es.foldl (fun m e => m.insert e.1 e.2) m).entries
        (es'.foldl (fun m e => m.insert e.1 e.2) m').entries := by
    induction h with
    | nil => exact fun _ _ hm => hm
    | @cons e e' _ _ he _ ih =>
      intro m m' hm
      refine ih (m.insert e.1 e.2) (m'.insert e'.1 e'.2) ?_
      show EntriesRel R (BuilderPlanner.insertEntry e.1 e.2 m.entries)
        (BuilderPlanner.insertEntry e'.1 e'.2 m'.entries)
      rw [← he.1]
      exact hm.insertEntry e.1 he.2
  exact hfoldl empty empty .nil

/-- What is the same for related values is the same for related results of a search. -/
theorem bind_eq_of_rel {γ : Type} {f : α → Option γ} {g : β → Option γ}
    (hfg : ∀ a b, R a b → f a = g b) {o : Option α} {o' : Option β} (h : Option.Rel R o o') :
    o.bind f = o'.bind g := by
  cases h with
  | none => rfl
  | some hab => exact hfg _ _ hab

/-! ### Related lists of computations -/

theorem mapM_eq_ok_iff_forall₂ {ε : Type} {f : α → Except ε β} {xs : List α} {ys : List β} :
    xs.mapM f = .ok ys ↔ List.Forall₂ (fun x y => f x = .ok y) xs ys := by
  induction xs generalizing ys with
  | nil =>
    rw [List.mapM_nil, List.forall₂_nil_left_iff]
    constructor
    · intro h
      cases h
      rfl
    · intro h
      rw [h]
      rfl
  | cons x xs ih =>
    rw [mapM_cons_eq_ok_iff, List.forall₂_cons_left_iff]
    simp only [ih, exists_and_left, @eq_comm _ _ ys]

/-- Related lists have related results, if related members have. -/
theorem exists_mapM_of_forall₂ {ε α' β' : Type} {S : α' → β' → Prop} {f : α → Except ε α'}
    {f' : β → Except ε β'}
    (hf : ∀ x x' y, R x x' → f x = .ok y → ∃ y', f' x' = .ok y' ∧ S y y') {xs : List α}
    {xs' : List β} (h : List.Forall₂ R xs xs') {ys : List α'} (hys : xs.mapM f = .ok ys) :
    ∃ ys', xs'.mapM f' = .ok ys' ∧ List.Forall₂ S ys ys' := by
  simp only [mapM_eq_ok_iff_forall₂] at hys ⊢
  induction h generalizing ys with
  | nil =>
    cases hys
    exact ⟨[], .nil, .nil⟩
  | cons hx _ ih =>
    cases hys with
    | cons hy hys =>
      obtain ⟨y', hy', hrel⟩ := hf _ _ _ hx hy
      obtain ⟨ys', hys', hrels⟩ := ih hys
      exact ⟨y' :: ys', .cons hy' hys', .cons hrel hrels⟩

/-- A list in another order has the same results in another order. -/
theorem exists_perm_of_mapM_eq_ok {ε : Type} {f : α → Except ε β} {xs xs' : List α} {ys : List β}
    (hxs : xs.Perm xs') (hys : xs.mapM f = .ok ys) : ∃ ys', xs'.mapM f = .ok ys' ∧ ys.Perm ys' := by
  obtain ⟨ys', hys', hperm⟩ :=
    List.perm_comp_forall₂ hxs.symm (mapM_eq_ok_iff_forall₂.1 hys)
  exact ⟨ys', mapM_eq_ok_iff_forall₂.2 hys', hperm.symm⟩

/-! ### Reordered types -/

/-- A described type with its methods and its constructors in another order. -/
inductive TypeEntry.Reordered (t : TypeEntry) : TypeEntry → Prop where
  | intro {methods : List MethodEntry} {constructors : List ConstructorEntry}
    (hmethods : t.methods.Perm methods) (hconstructors : t.constructors.Perm constructors) :
    t.Reordered { t with methods, constructors }

/-- A declaration with its methods and its constructors in another order. -/
inductive Declaration.Reordered (d : Declaration) : Declaration → Prop where
  | intro {methods : List Method} {constructors : List Constructor}
    (hmethods : d.methods.Perm methods) (hconstructors : d.constructors.Perm constructors) :
    d.Reordered { d with methods, constructors }

theorem Declaration.Reordered.refl (d : Declaration) : d.Reordered d := .intro (.refl _) (.refl _)

/-- A document whose types list their methods and their constructors in another order. -/
def Document.Reordered (doc doc' : Document) : Prop :=
  EntriesRel TypeEntry.Reordered doc.types.entries doc'.types.entries

/-- A catalog whose declarations list their methods and their constructors in another order. -/
def Catalog.Reordered (c c' : Catalog) : Prop :=
  EntriesRel Declaration.Reordered c.types.entries c'.types.entries

theorem Catalog.Reordered.find? {c c' : Catalog} (h : c.Reordered c') (name : String) :
    Option.Rel Declaration.Reordered (c.find? name) (c'.find? name) := h.lookup name

/-! ### Reordered documents are loaded alike -/

theorem TypeEntry.Reordered.declare {t t' : TypeEntry} (h : t.Reordered t') {name : String}
    {d : Declaration} (hd : t.declare name = .ok d) :
    ∃ d', t'.declare name = .ok d' ∧ d.Reordered d' := by
  obtain ⟨hmethods, hconstructors⟩ := h
  obtain ⟨hname, haccess, htypeParams, henclosing, ss, hs, ms, hm, ks, hk, rfl⟩ :=
    TypeEntry.declare_eq_ok_iff.1 hd
  obtain ⟨ms', hm', hms⟩ := exists_perm_of_mapM_eq_ok hmethods hm
  obtain ⟨ks', hk', hks⟩ := exists_perm_of_mapM_eq_ok hconstructors hk
  exact ⟨_, TypeEntry.declare_eq_ok_iff.2
    ⟨hname, haccess, htypeParams, henclosing, ss, hs, ms', hm', ks', hk', rfl⟩, .intro hms hks⟩

theorem TypeEntry.Reordered.enclosing_eq {t t' : TypeEntry} (h : t.Reordered t') :
    t.enclosing = t'.enclosing := by
  cases h
  rfl

/-- Enclosing types are still described. -/
theorem Document.Reordered.enclosing {doc doc' : Document} (h : doc.Reordered doc')
    (hdoc : ∀ e ∈ doc.types.entries, ∀ outer ∈ e.2.enclosing, outer ∈ doc.types.names) :
    ∀ e ∈ doc'.types.entries, ∀ outer ∈ e.2.enclosing, outer ∈ doc'.types.names := by
  have hnames : doc.types.names = doc'.types.names := h.map_eq fun _ _ he _ => he
  have houters : doc.types.entries.map (·.2.enclosing) = doc'.types.entries.map (·.2.enclosing) :=
    h.map_eq fun _ _ _ he => he.enclosing_eq
  have hdoc : ∀ o ∈ doc.types.entries.map (·.2.enclosing), ∀ outer ∈ o, outer ∈ doc.types.names :=
    List.forall_mem_map.2 hdoc
  rw [houters, hnames] at hdoc
  exact List.forall_mem_map.1 hdoc

theorem Document.reordered_catalog {doc doc' : Document} (h : doc.Reordered doc') {c : Catalog}
    (hc : doc.catalog = .ok c) : ∃ c', doc'.catalog = .ok c' ∧ c.Reordered c' := by
  obtain ⟨ds, hds, henclosing, htypes⟩ := Document.catalog_eq_ok_iff.1 hc
  obtain ⟨ds', hds', hrel⟩ : ∃ ds', (doc'.types.entries.mapM fun e =>
      (Prod.mk e.1) <$> e.2.declare e.1) = .ok ds' ∧ EntriesRel Declaration.Reordered ds ds' := by
    refine exists_mapM_of_forall₂ (fun e e' y he hy => ?_) h hds
    obtain ⟨d, hd, rfl⟩ := map_eq_ok_iff.1 hy
    obtain ⟨d', hd', hdd'⟩ := he.2.declare hd
    rw [← he.1]
    exact ⟨(e.1, d'), map_eq_ok_iff.2 ⟨d', hd', rfl⟩, rfl, hdd'⟩
  have hmaps := NameMap.rel_ofList hrel
  -- The root class is added to both catalogs or to none, as it is described in both or in none.
  have hroot : (NameMap.ofList ds).contains JavaType.objectName =
      (NameMap.ofList ds').contains JavaType.objectName := by
    rw [Bool.eq_iff_iff, NameMap.contains_ofList, NameMap.contains_ofList,
      hrel.map_eq fun _ _ h _ => h]
  refine ⟨⟨_⟩, Document.catalog_eq_ok_iff.2 ⟨ds', hds', ?_, rfl⟩, ?_⟩
  · exact h.enclosing henclosing
  · show EntriesRel _ c.types.entries (NameMap.entries (ite _ _ _))
    rw [htypes, ← hroot]
    split
    · exact hmaps
    · exact hmaps.insertEntry _ (Declaration.Reordered.refl objectDeclaration)

end BuilderPlanner
