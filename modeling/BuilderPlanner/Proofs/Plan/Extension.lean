import BuilderPlanner.Plan.Basic
import BuilderPlanner.Proofs.Catalog.Valid
import BuilderPlanner.Proofs.Declaration.Bindings
import BuilderPlanner.Proofs.JavaType.Names
import BuilderPlanner.Proofs.Plan.Collisions
import BuilderPlanner.Proofs.Surface.Reached

/-!
# Unrelated declarations do not change a plan

A plan looks up the value type and its builder, the type around the builder, and what two walks come
by. All names that a walk comes by stand in the catalog: in its supertypes, or in the type arguments
that are put in place of variables there.

* `Catalog.Mentions` — a name stands in a declaration;
* `Catalog.Extension` — a catalog with more declarations, none of which has a name to be avoided;
* `Catalog.Agree` — two catalogs have the same declarations for the names in a type, which is what
  walks preserve;
* `Catalog.plan_extension` — a plan stays if the names of the new declarations are not mentioned and
  none of them is the builder.
-/

namespace BuilderPlanner

/-! ### The name before the last dot -/

theorem outerName?_append {inner : String} (h : '.' ∉ inner.toList) (outer : String) :
    outerName? (outer ++ "." ++ inner) = some outer := by
  have hinner : ∀ c ∈ inner.toList.reverse, (c != '.') = true := by
    intro c hc
    rw [bne_iff_ne]
    intro heq
    exact h (heq ▸ List.mem_reverse.1 hc)
  have hdrop : ((outer ++ "." ++ inner).toList.reverse.dropWhile (· != '.')) =
      '.' :: outer.toList.reverse := by
    rw [String.toList_append, String.toList_append, List.reverse_append, List.reverse_append,
      List.dropWhile_append_of_pos hinner]
    rfl
  rw [outerName?, hdrop]
  simp

namespace Catalog

/-! ### Extensions -/

/-- A name stands in one of the types in a declaration. -/
def Mentions (c : Catalog) (n : String) : Prop :=
  ∃ k d, c.find? k = some d ∧ ∃ e ∈ d.typesInScope, n ∈ e.2.names

/-- A catalog has all declarations of another, and further ones. The names of these are not to be
`avoided`. -/
structure Extension (c c' : Catalog) (avoided : String → Prop) : Prop where
  kept : ∀ n d, c.find? n = some d → c'.find? n = some d
  added : ∀ n, c.find? n = none → c'.find? n ≠ none → ¬avoided n

/-- Two catalogs have the same declaration, or none, for every name in a type. -/
def Agree (c c' : Catalog) (t : JavaType) : Prop := ∀ n ∈ t.names, c'.find? n = c.find? n

/-- Two catalogs agree in all supertypes that the first of them declares. -/
def AgreeAbove (c c' : Catalog) : Prop :=
  ∀ n d, c.find? n = some d → ∀ s ∈ d.supertypes, c.Agree c' s

variable {c c' : Catalog} {avoided : String → Prop}

theorem Extension.find?_eq (h : c.Extension c' avoided) {n : String}
    (hn : (c.find? n).isSome = true ∨ avoided n) : c'.find? n = c.find? n := by
  cases hd : c.find? n with
  | some d => exact h.kept n d hd
  | none =>
    rw [hd] at hn
    by_contra hne
    rcases hn with hn | hn
    · cases hn
    · exact h.added n hd hne hn

/-! ### The walk -/

/-- The names that a supertype is made of are those of the declaration and of the type
arguments. -/
theorem Agree.supertypesOf (habove : c.AgreeAbove c') {t : JavaType} (ht : c.Agree c' t) :
    ∀ s ∈ c.supertypesOf t, c.Agree c' s := by
  intro s hs n hn
  unfold Catalog.supertypesOf at hs
  cases hd : t.name?.bind c.find? with
  | none => simp [hd] at hs
  | some d =>
    obtain ⟨k, -, hk⟩ := Option.bind_eq_some_iff.1 hd
    rw [hd] at hs
    obtain ⟨u, hu, rfl⟩ := List.mem_map.1 hs
    rcases JavaType.mem_names_substitute hn with hn | ⟨x, v, hx, hn⟩
    · exact habove k d hk u hu n hn
    · have hmem := (List.of_mem_zip (Declaration.mem_zip_of_lookup hx)).2
      exact ht n (JavaType.mem_names_of_mem_args hmem hn)

theorem Agree.declarationOf {t : JavaType} (ht : c.Agree c' t) :
    t.name?.bind c'.find? = t.name?.bind c.find? := by
  cases hn : t.name? with
  | none => rfl
  | some n => exact ht n (JavaType.mem_names_of_name? hn)

theorem Agree.ownMembers {t : JavaType} (ht : c.Agree c' t) :
    c'.ownMembers t = c.ownMembers t := by
  unfold Catalog.ownMembers
  rw [ht.declarationOf]

theorem Agree.supertypesOf_eq {t : JavaType} (ht : c.Agree c' t) :
    c'.supertypesOf t = c.supertypesOf t := by
  unfold Catalog.supertypesOf
  rw [ht.declarationOf]

theorem Agree.declares {t : JavaType} (ht : c.Agree c' t) : c'.declares t = c.declares t := by
  rw [declares_eq_isSome, declares_eq_isSome, ht.declarationOf]

/-- A type in which two catalogs agree has the same members in both. -/
theorem Agree.membersOf (habove : c.AgreeAbove c') (hobject : c.Agree c' .object) {t : JavaType}
    (ht : c.Agree c' t) : c'.membersOf t = c.membersOf t := by
  by_cases hdeclares : c.declares t = true
  · have hpending : ∀ u ∈ [t, .object], c.Agree c' u := by
      intro u hu
      rcases List.mem_cons.1 hu with rfl | hu
      · exact ht
      · rw [List.mem_singleton.1 hu]
        exact hobject
    obtain ⟨us, hus⟩ := c.exists_visits [t, .object] []
    have hagree := hus.all hpending fun t ht => ht.supertypesOf habove
    have hus' := hus.congr_catalog (fun t ht => ht.supertypesOf habove) (fun t ht => ht.declares)
      (fun t ht => ht.supertypesOf_eq) hpending
    rw [hus.membersOf_eq hdeclares,
      hus'.membersOf_eq (ht.declares.trans hdeclares),
      List.flatMap_congr fun u hu => (hagree u hu).ownMembers]
  · rw [membersOf_eq_nil hdeclares, membersOf_eq_nil (ht.declares ▸ hdeclares)]

/-! ### What a plan reads -/

/-- A plan reads the declaration of the builder, the one around it, and two surfaces. -/
theorem planFor_congr {preferences : Preferences} {valueType : String} {d : Declaration}
    (hbuilder : c'.find? (preferences.builderOf valueType) =
      c.find? (preferences.builderOf valueType))
    (houter : c'.enclosing? (preferences.builderOf valueType) =
      c.enclosing? (preferences.builderOf valueType))
    (hvalues : c'.membersOf d.declaredType = c.membersOf d.declaredType)
    (hbuilders : c'.membersOf (d.builderType (preferences.builderOf valueType)) =
      c.membersOf (d.builderType (preferences.builderOf valueType))) :
    c'.planFor preferences valueType d = c.planFor preferences valueType d := by
  let builder := preferences.builderOf valueType
  have hcreation : c'.creation? builder = c.creation? builder := by
    simp only [creation?, creationMethod?, builder, hbuilder, houter]
  have hcall : ∀ method, c'.staticCall (d.builderType builder) method =
      c.staticCall (d.builderType builder) method := by
    intro method
    simp only [staticCall, Declaration.builderType, JavaType.name?, Option.getD_some, builder,
      houter]
  have hnew : ∀ way, c'.newBuilder way (d.builderType builder) =
      c.newBuilder way (d.builderType builder) := by
    intro way
    cases way with
    | constructor => rfl
    | builderMethod => exact hcall "builder"
    | newBuilderMethod => exact hcall "newBuilder"
  have hwarnings : c'.builderWarnings builder = c.builderWarnings builder := by
    simp only [builderWarnings, hcreation]
    simp only [builder, hbuilder]
  have hsurface : c'.builderSurface? builder (d.builderType builder) =
      c.builderSurface? builder (d.builderType builder) := by
    simp only [builderSurface?, builder, hbuilder, hbuilders]
  simp only [builder] at hcreation hnew hwarnings hsurface
  simp only [planFor, hbuilder, hcreation, hnew, hwarnings, hsurface, hvalues]

/-! ### Extensions of loaded catalogs -/

variable {doc : Document} {preferences : Preferences} {valueType : String} {d : Declaration}

/-- The type around a builder is the one that it gives, which is declared, or the value type. -/
theorem Extension.enclosing?_builderOf
    (h : c.Extension c' fun n => c.Mentions n ∨ n = preferences.builderOf valueType)
    (hc : doc.catalog = .ok c) (hname : preferences.check = .ok ())
    (hd : c.find? valueType = some d) :
    c'.enclosing? (preferences.builderOf valueType) =
      c.enclosing? (preferences.builderOf valueType) := by
  have hbuilder : c'.find? (preferences.builderOf valueType) =
      c.find? (preferences.builderOf valueType) := h.find?_eq (.inr (.inr rfl))
  have hdot := dot_not_mem_of_isIdentifier (Preferences.check_eq_ok_iff.1 hname)
  rw [enclosing?_eq, enclosing?_eq, hbuilder]
  cases hb : c.find? (preferences.builderOf valueType) with
  | none => rfl
  | some b =>
    rw [Option.bind_some, Preferences.builderOf, outerName?_append hdot]
    cases houter : b.enclosing with
    | none =>
      show c'.find? valueType = c.find? valueType
      rw [h.kept valueType d hd, hd]
    | some outer =>
      have hdeclared := (Document.describes_of_catalog hc).enclosing _ b hb outer houter
      exact h.find?_eq (.inl hdeclared)

/-- **Unrelated declarations do not change a plan.** Let a catalog get more declarations, of names
that no type in it mentions and that are not the name of the builder. Then every value type has the
same plan as before, and it has one. -/
theorem plan_extension (hc : doc.catalog = .ok c) (hname : preferences.check = .ok ())
    (hd : c.find? valueType = some d)
    (h : c.Extension c' fun n => c.Mentions n ∨ n = preferences.builderOf valueType) :
    ∃ p, c.plan preferences valueType = .ok p ∧ c'.plan preferences valueType = .ok p := by
  have hd' := h.kept valueType d hd
  have hqualified := Document.qualifiedName_of_catalog hc hd
  have hbuilder : c'.find? (preferences.builderOf valueType) =
      c.find? (preferences.builderOf valueType) := h.find?_eq (.inr (.inr rfl))
  have habove : c.AgreeAbove c' := by
    intro k e he s hs n hn
    have hmentions : c.Mentions n := by
      refine ⟨k, e, he, (e.typeParams, s), ?_, hn⟩
      simp [Declaration.typesInScope, hs]
    exact h.find?_eq (.inr (.inl hmentions))
  have hobject : c.Agree c' .object := by
    intro n hn
    rw [List.mem_singleton.1 (hn : n ∈ [JavaType.objectName])]
    exact h.find?_eq (.inl ((Document.isSome_find?_iff hc).2 (.inr rfl)))
  have hvalues : c.Agree c' d.declaredType := by
    intro n hn
    rw [Declaration.declaredType, JavaType.names_named_vars, hqualified] at hn
    rw [List.mem_singleton.1 hn, hd', hd]
  have hbuilders : c.Agree c' (d.builderType (preferences.builderOf valueType)) := by
    intro n hn
    rw [Declaration.builderType, JavaType.names_named_vars] at hn
    rw [List.mem_singleton.1 hn, hbuilder]
  have hplan := planFor_congr hbuilder (h.enclosing?_builderOf hc hname hd)
    (Agree.membersOf habove hobject hvalues) (Agree.membersOf habove hobject hbuilders)
  exact ⟨c.planFor preferences valueType d, plan_eq_ok hname hd, hplan ▸ plan_eq_ok hname hd'⟩

/-! ### One more declaration -/

theorem extension_insert {n : String} (hn : c.find? n = none) (havoided : ¬avoided n)
    (d : Declaration) : c.Extension ⟨c.types.insert n d⟩ avoided where
  kept k e he := by
    have hne : k ≠ n := by
      intro heq
      rw [heq, hn] at he
      cases he
    exact (NameMap.find?_insert_of_ne c.types hne d).trans he
  added k hk hne := by
    have heq : k = n := by
      by_contra hkn
      exact hne ((NameMap.find?_insert_of_ne c.types hkn d).trans hk)
    exact heq ▸ havoided

/-- A name is not mentioned if it is in none of the listed declarations. -/
theorem not_mentions_of_entries {n : String}
    (h : ∀ entry ∈ c.types.entries, ∀ e ∈ entry.2.typesInScope, n ∉ e.2.names) :
    ¬c.Mentions n := by
  intro hmentions
  obtain ⟨k, d, hd, e, he, hn⟩ := hmentions
  exact h (k, d) (NameMap.mem_of_find? hd) e he hn

/-- A value type with a builder and a supertype that is not declared. -/
def houseDocument : Document where
  types := .ofList [
    ("a.House", { kind := .interfaceKind, supertypes := ["a.Home<java.lang.String>"]
                  methods := [{ name := "rooms", returns := "int" }] }),
    ("a.House.Builder", { methods := [{ name := "clear", returns := "int" }]
                          constructors := [{}] })]

/-- A declaration that uses the value type. -/
def annex : Declaration :=
  { objectDeclaration with qualifiedName := "a.Annex", supertypes := [.plain "a.House"] }

/-- The value type is used by a declaration that it does not mention, and its plan stays. -/
theorem plan_of_houseDocument :
    ∃ c p, houseDocument.catalog = .ok c ∧ c.plan {} "a.House" = .ok p ∧
      (Catalog.mk (c.types.insert "a.Annex" annex)).plan {} "a.House" = .ok p := by
  obtain ⟨c, hc, hnone, hsome, hentries⟩ := exists_of_eval houseDocument.catalog
    (fun c => c.find? "a.Annex" = none ∧ (c.find? "a.House").isSome = true ∧
      ∀ entry ∈ c.types.entries, ∀ e ∈ entry.2.typesInScope, "a.Annex" ∉ e.2.names)
    (by decide +kernel)
  obtain ⟨d, hd⟩ := Option.isSome_iff_exists.1 hsome
  have hfresh : ¬(c.Mentions "a.Annex" ∨ "a.Annex" = Preferences.builderOf {} "a.House") := by
    intro havoided
    rcases havoided with hmentions | heq
    · exact not_mentions_of_entries hentries hmentions
    · exact absurd heq (by decide)
  obtain ⟨p, hp, hp'⟩ := plan_extension hc (by decide +kernel) hd
    (extension_insert hnone hfresh annex)
  exact ⟨c, p, hc, hp, hp'⟩

end Catalog

end BuilderPlanner
