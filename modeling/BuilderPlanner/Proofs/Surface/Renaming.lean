import BuilderPlanner.Proofs.Catalog.Scoped
import BuilderPlanner.Proofs.Declaration.Renaming
import BuilderPlanner.Proofs.Surface.Groups
import BuilderPlanner.Proofs.Surface.Reached

/-!
# Surfaces under new names for type parameters of methods

The names of the type parameters of a method bear on a surface in one way. A variable erases to its
own name, so two methods that take values of their own type parameters override each other only if
these have the same names. With names that are used nowhere else such a method overrides no other
and is overridden by none.

* `Catalog.flatMap_ownMembers_withMethods` — what a walk comes by if a declaration has other methods;
* `Catalog.Unused` — a name stands neither in a catalog nor in a target;
* `Catalog.Avoids.supertypesOf`, `Catalog.Avoids.ownMembers` — such a name does not come up on a
  walk;
* `Catalog.membersOf_rename_iff` — what new names for the type parameters of a method make of the
  surfaces.
-/

namespace BuilderPlanner

open JavaType (FreshFor)

namespace Catalog

/-- A name stands neither in the declarations of a catalog nor in a target. -/
structure Unused (c : Catalog) (t : JavaType) (z : String) : Prop where
  catalog : ∀ n d, c.find? n = some d → ∀ p ∈ d.typesInScope, z ∉ p.2.words
  target : FreshFor z t

/-- A name is fresh for all types in the declarations of a catalog. -/
def Avoids (c : Catalog) (z : String) : Prop :=
  ∀ n d, c.find? n = some d → ∀ p ∈ d.typesInScope, FreshFor z p.2

section

variable {c : Catalog} {d : Declaration} {ms : List Method} {t u : JavaType}
  {pending us us₁ us₂ : List JavaType} {visited : List String}

/-! ### Other methods for a declaration -/

/-- No other visit is to a type of the same name. -/
theorem Visits.name?_ne (h : c.Visits pending visited (us₁ ++ u :: us₂)) :
    ∀ v ∈ us₁ ++ us₂, v.name? ≠ u.name? := by
  have hnodup := h.nodup_name
  rw [List.map_append, List.map_cons, List.nodup_middle, List.nodup_cons, ← List.map_append]
    at hnodup
  exact fun v hv heq => hnodup.1 (heq ▸ List.mem_map_of_mem hv)

/-- What a walk comes by, if it visits a declaration with other methods. -/
theorem flatMap_ownMembers_withMethods {above ms below : List Method}
    (hu : u.name? = some d.qualifiedName) (hothers : ∀ v ∈ us₁ ++ us₂, v.name? ≠ u.name?) :
    (us₁ ++ u :: us₂).flatMap (c.withMethods d (above ++ ms ++ below)).ownMembers =
      (us₁.flatMap c.ownMembers ++
        above.map (Method.seenThrough (d.bindings u.args) d.qualifiedName)) ++
      ms.map (Method.seenThrough (d.bindings u.args) d.qualifiedName) ++
      (below.map (Method.seenThrough (d.bindings u.args) d.qualifiedName) ++
        us₂.flatMap c.ownMembers) := by
  have hother : ∀ {vs : List JavaType}, vs ⊆ us₁ ++ us₂ →
      vs.flatMap (c.withMethods d (above ++ ms ++ below)).ownMembers =
        vs.flatMap c.ownMembers := by
    intro vs hvs
    exact List.flatMap_congr fun v hv =>
      ownMembers_withMethods_of_ne _ fun hn => hothers v (hvs hv) (hn.trans hu.symm)
  rw [List.flatMap_append, List.flatMap_cons, hother (List.subset_append_left us₁ us₂),
    hother (List.subset_append_right us₁ us₂), ownMembers_withMethods hu]
  simp only [List.map_append, List.append_assoc]

theorem withMethods_self (hd : c.find? d.qualifiedName = some d) :
    (c.withMethods d d.methods).ownMembers = c.ownMembers := by
  funext t
  by_cases hn : t.name? = some d.qualifiedName
  · rw [ownMembers_withMethods hn, ownMembers_eq hn hd]
  · exact ownMembers_withMethods_of_ne d.methods hn

/-! ### Names that do not come up -/

variable {z : String}

theorem freshFor_substitute {args : List JavaType} {hidden : List String} {p : JavaType}
    (hp : FreshFor z p) (hargs : ∀ a ∈ args, FreshFor z a) :
    FreshFor z (p.substitute ((d.bindings args).without hidden).lookup) := by
  refine hp.substitute fun x v hv => hargs v ?_
  have hmem := Bindings.mem_of_mem_without (Bindings.mem_of_lookup hv)
  exact Declaration.mem_args_of_mem_bindings hmem

theorem Avoids.supertypesOf (hc : c.Avoids z) (hu : FreshFor z u) {s : JavaType}
    (hs : s ∈ c.supertypesOf u) : FreshFor z s := by
  unfold Catalog.supertypesOf at hs
  split at hs
  · exact absurd hs List.not_mem_nil
  · rename_i d hd
    obtain ⟨n, -, hfind⟩ := Option.bind_eq_some_iff.1 hd
    obtain ⟨s, hmem, rfl⟩ := List.mem_map.1 hs
    have hscope :=
      Declaration.forall_typesInScope (P := fun _ p => FreshFor z p) |>.1 (hc n d hfind)
    rw [← Bindings.without_nil (d.bindings u.args)]
    exact freshFor_substitute (hscope.1 s hmem) fun a ha => hu.of_mem_args ha

theorem Avoids.ownMembers (hc : c.Avoids z) (hu : FreshFor z u) {e : Member}
    (he : e ∈ c.ownMembers u) : ∀ p ∈ e.params, FreshFor z p := by
  unfold Catalog.ownMembers at he
  split at he
  · exact absurd he List.not_mem_nil
  · rename_i d hd
    obtain ⟨n, -, hfind⟩ := Option.bind_eq_some_iff.1 hd
    obtain ⟨m, hm, rfl⟩ := List.mem_map.1 he
    have hscope :=
      Declaration.forall_typesInScope (P := fun _ p => FreshFor z p) |>.1 (hc n d hfind)
    intro p hp
    obtain ⟨p, hmem, rfl⟩ := List.mem_map.1 hp
    exact freshFor_substitute ((hscope.2.1 m hm).1 p hmem) fun a ha => hu.of_mem_args ha

/-- A name is unused if it is in none of the listed declarations. -/
theorem unused_of_entries (h : ∀ e ∈ c.types.entries, ∀ p ∈ e.2.typesInScope, z ∉ p.2.words)
    (hbrackets : ∀ w ∈ t.words, '[' ∉ w.toList) (ht : z ∉ t.words) : c.Unused t z where
  catalog n d hd := h (n, d) (NameMap.mem_of_find? hd)
  target := JavaType.freshFor_of_bracket_not_mem hbrackets ht

/-- The types in a loaded catalog were read, so a name that stands in none is fresh for all. -/
theorem Unused.avoids {doc : Document} (hload : doc.catalog = .ok c)
    (hd : c.find? d.qualifiedName = some d) (hms : ms ⊆ d.methods)
    (h : (c.withMethods d ms).Unused t z) : (c.withMethods d ms).Avoids z := by
  intro n e he p hp
  have hread : ∃ text, readTypeIn p.1 text = .ok p.2 := by
    by_cases hn : n = d.qualifiedName
    · subst hn
      obtain rfl := Option.some.inj (find?_withMethods_self.symm.trans he)
      let P scope t := ∃ text, readTypeIn scope text = .ok t
      obtain ⟨hsupertypes, hmethods, hconstructors⟩ :=
        (Declaration.forall_typesInScope (P := P)).1 (Document.read_of_catalog hload hd)
      exact (Declaration.forall_typesInScope (d := { d with methods := ms }) (P := P)).2
        ⟨hsupertypes, fun m hm => hmethods m (hms hm), hconstructors⟩ p hp
    · have he : c.find? n = some e :=
        (find?_redeclare_of_ne (d := { d with methods := ms }) hn) ▸ he
      exact Document.read_of_catalog hload he p hp
  obtain ⟨text, htext⟩ := hread
  exact JavaType.freshFor_of_ofTextIn (mapError_eq_ok_iff.1 htext) (h.catalog n e he p hp)

/-! ### New names -/

variable {doc : Document} {above below : List Method} {m : Method}
  {ρ : String → String}

/-- A renamed method that takes a value of its own type parameters has a signature that nothing else
on a walk has. -/
theorem Visits.signature_ne (hload : doc.catalog = .ok c)
    (hd : c.find? d.qualifiedName = some d) (hm : d.methods = above ++ m :: below)
    (hown : m.Admits ρ) (htakes : m.TakesOwn)
    (hρ : ∀ x ∈ m.typeParams,
      isIdentifier (ρ x) = true ∧ (c.withMethods d (above ++ below)).Unused t (ρ x))
    (h : c.Visits [t, .object] [] us) {b : Bindings} {owner : String} {e : Member}
    (he : e ∈ us.flatMap (c.withMethods d (above ++ below)).ownMembers) :
    e.signature ≠ ((m.rename ρ).seenThrough b owner).signature := by
  have hms : above ++ below ⊆ d.methods := by
    rw [hm]
    exact ((List.sublist_cons_self m below).append_left above).subset
  refine Method.signature_seenThrough_rename_ne hown (fun x hx => (hρ x hx).1) htakes ?_
  intro x hx
  obtain ⟨hidentifier, hunused⟩ := hρ x hx
  have havoids := hunused.avoids hload hd hms
  have hpending : ∀ u ∈ [t, .object], FreshFor (ρ x) u :=
    List.forall_mem_cons.2 ⟨hunused.target,
      List.forall_mem_singleton.2 (JavaType.freshFor_object hidentifier)⟩
  have hvisited := (h.withMethods (above ++ below) hd).all hpending
    fun u hu s hs => havoids.supertypesOf hu hs
  obtain ⟨u, hu, he⟩ := List.mem_flatMap.1 he
  exact havoids.ownMembers (hvisited u hu) he

end

/-- **New names for the type parameters of a method.** In a loaded catalog let a method have new
names for its own type parameters, which stand nowhere else in it nor in the target. The walk visits
the same types as before and comes by the same methods, only that this one has its new names where
its own parameters stand; the variables of the target are left alone, even if they had the old
names. The surface stays the same, up to the entry of the method, if and only if the method takes no
values of its own type parameters or nothing else on the walk had its signature. Otherwise there is
one entry more, because the method overrides, or is overridden, no longer. -/
theorem membersOf_rename_iff {doc : Document} {c c' : Catalog} (hload : doc.catalog = .ok c)
    {q : String} {d : Declaration} (hd : c.find? q = some d) {above below : List Method}
    {m : Method} (hm : d.methods = above ++ m :: below) {ρ : String → String}
    (hc' : c' = c.withMethods d (above ++ m.rename ρ :: below)) (hown : m.Admits ρ) {t : JavaType}
    (hρ : ∀ x ∈ m.typeParams,
      isIdentifier (ρ x) = true ∧ (c.withMethods d (above ++ below)).Unused t (ρ x)) :
    (c.declares t = false → c'.membersOf t = c.membersOf t) ∧
    (c.declares t = true → ∃ us, c.Visits [t, .object] [] us ∧ c'.Visits [t, .object] [] us ∧
      ((∀ u ∈ us, u.name? ≠ some q) → c'.membersOf t = c.membersOf t) ∧
      ∀ us₁ u us₂, us = us₁ ++ u :: us₂ → u.name? = some q →
        let see := Method.seenThrough (d.bindings u.args) q
        let before := us₁.flatMap c.ownMembers ++ above.map see
        let after := below.map see ++ us₂.flatMap c.ownMembers
        us.flatMap c.ownMembers = before ++ see m :: after ∧
        us.flatMap c'.ownMembers = before ++ see (m.rename ρ) :: after ∧
        see (m.rename ρ) = m.seenWith (m.seenAs ρ (d.bindings u.args)) q ∧
        ((∀ a ∈ u.args, ∀ x ∈ m.typeParams, x ∉ a.vars) →
          see (m.rename ρ) = (see m).substitute (newNames m.typeParams ρ)) ∧
        (EntryReplaced before (see m) (see (m.rename ρ)) (c.membersOf t) (c'.membersOf t) ↔
          ¬m.TakesOwn ∨ ∀ o ∈ before ++ after, o.signature ≠ (see m).signature) ∧
        (¬EntryReplaced before (see m) (see (m.rename ρ)) (c.membersOf t) (c'.membersOf t) →
          (c'.membersOf t).length = (c.membersOf t).length + 1)) := by
  obtain rfl := Document.qualifiedName_of_catalog hload hd
  subst hc'
  have hdeclares := declares_withMethods (above ++ m.rename ρ :: below) hd t
  refine ⟨fun ht => ?_, fun ht => ?_⟩
  · rw [membersOf_eq_nil (Bool.eq_false_iff.1 ht),
      membersOf_eq_nil (Bool.eq_false_iff.1 (hdeclares.trans ht))]
  · obtain ⟨us, hus⟩ := c.exists_visits [t, .object] []
    have hus' := hus.withMethods (above ++ m.rename ρ :: below) hd
    have hmembers := hus.membersOf_eq ht
    have hmembers' := hus'.membersOf_eq (hdeclares.trans ht)
    refine ⟨us, hus, hus', fun hnone => ?_, ?_⟩
    · rw [hmembers, hmembers',
        List.flatMap_congr fun u hu => ownMembers_withMethods_of_ne _ (hnone u hu)]
    · rintro us₁ u us₂ rfl hu see before after
      have hsplit : ∀ ms,
          (us₁ ++ u :: us₂).flatMap (c.withMethods d (above ++ ms ++ below)).ownMembers =
            before ++ ms.map see ++ after :=
        fun ms => flatMap_ownMembers_withMethods hu hus.name?_ne
      have hwalk : (us₁ ++ u :: us₂).flatMap c.ownMembers = before ++ see m :: after := by
        rw [← withMethods_self hd, hm]
        simpa using hsplit [m]
      have hwalk' : (us₁ ++ u :: us₂).flatMap
          (c.withMethods d (above ++ m.rename ρ :: below)).ownMembers =
            before ++ see (m.rename ρ) :: after := by
        simpa using hsplit [m.rename ρ]
      have hothers : (us₁ ++ u :: us₂).flatMap (c.withMethods d (above ++ below)).ownMembers =
          before ++ after := by
        simpa using hsplit []
      have hkept : ¬m.TakesOwn → (see (m.rename ρ)).signature = (see m).signature :=
        Method.signature_seenThrough_rename hown
      have hnew : m.TakesOwn → ∀ o ∈ before ++ after, o.signature ≠ (see (m.rename ρ)).signature :=
        fun htakes o ho => hus.signature_ne hload hd hm hown htakes hρ (hothers ▸ ho)
      refine ⟨hwalk, hwalk', Method.seenThrough_rename hown, fun hargs => ?_, ?_, ?_⟩
      · refine Method.seenThrough_rename_of_apart hown fun y v hv => ?_
        exact hargs v (Declaration.mem_args_of_mem_bindings (Bindings.mem_of_lookup hv))
      · rw [hmembers, hmembers', hwalk, hwalk']
        exact entryReplaced_iff hkept hnew
      · rw [hmembers, hmembers', hwalk, hwalk']
        exact length_of_not_entryReplaced hkept hnew

/-- A type with a method for pairs whose second half is of any type, and a use of it by a type whose
variable has the name that the method gives to this type. -/
def keyedDocument : Document where
  types := .ofList [
    ("a.Keyed", { typeParams := ["T"], supertypes := ["a.Pairing<T>"] }),
    ("a.Pairing",
      { typeParams := ["A"]
        methods := [
          { name := "pair", typeParams := ["T"], params := ["A", "T"], returns := "T" }] })]

/-- The method for pairs, with `own` for the type of the second half. -/
def pairMethod (own : String) : Method where
  name := "pair"
  params := [.var "A", .var own]
  returns := .var own
  modifiers := []
  visibility := .package
  typeParams := [own]
  isAbstract := false

/-- The variable of the target is left alone when the one of the method gets another name. -/
theorem membersOf_rename_keyed :
    ∃ c c' d b before, keyedDocument.catalog = .ok c ∧ c.find? "a.Pairing" = some d ∧
      d.methods = [pairMethod "T"] ∧ c' = c.withMethods d [pairMethod "U"] ∧
      EntryReplaced before ((pairMethod "T").seenThrough b "a.Pairing")
        ((pairMethod "U").seenThrough b "a.Pairing") (c.membersOf (.named "a.Keyed" [.var "T"]))
        (c'.membersOf (.named "a.Keyed" [.var "T"])) ∧
      (c.membersOf (.named "a.Keyed" [.var "T"])).map Member.signature =
        ("pair", ["T", "T"]) :: (c.membersOf .object).map Member.signature ∧
      (c'.membersOf (.named "a.Keyed" [.var "T"])).map Member.signature =
        ("pair", ["T", "U"]) :: (c.membersOf .object).map Member.signature := by
  obtain ⟨c, hc, ht, d, hd, hm, hunused, hbefore, hafter⟩ := exists_of_eval keyedDocument.catalog
    (fun c => c.declares (.named "a.Keyed" [.var "T"]) = true ∧ ∃ d ∈ c.find? "a.Pairing",
      d.methods = [pairMethod "T"] ∧
      (∀ e ∈ (c.withMethods d []).types.entries, ∀ p ∈ e.2.typesInScope, "U" ∉ p.2.words) ∧
      (c.membersOf (.named "a.Keyed" [.var "T"])).map Member.signature =
        ("pair", ["T", "T"]) :: (c.membersOf .object).map Member.signature ∧
      ((c.withMethods d [pairMethod "U"]).membersOf (.named "a.Keyed" [.var "T"])).map
          Member.signature =
        ("pair", ["T", "U"]) :: (c.membersOf .object).map Member.signature)
    (by decide +kernel)
  have hfresh : (c.withMethods d []).Unused (.named "a.Keyed" [.var "T"]) "U" :=
    unused_of_entries hunused (by decide +kernel) (by decide)
  have hown : (pairMethod "T").Admits fun _ => "U" := by decide +kernel
  have hsplit : d.methods = [] ++ pairMethod "T" :: [] := hm
  obtain ⟨us, -, -, hnone, hvisit⟩ := (membersOf_rename_iff hc hd hsplit rfl hown
    fun _ _ => ⟨by decide +kernel, hfresh⟩).2 ht
  have hvisited : ∃ u ∈ us, u.name? = some "a.Pairing" := by
    -- otherwise the surfaces would be the same
    by_contra hnot
    push Not at hnot
    rw [← hnone hnot] at hbefore
    exact absurd (List.cons.inj (hbefore.symm.trans hafter)).1 (by decide)
  obtain ⟨u, hu, hname⟩ := hvisited
  obtain ⟨us₁, us₂, rfl⟩ := List.append_of_mem hu
  obtain ⟨-, -, -, -, -, hotherwise⟩ := hvisit us₁ u us₂ rfl hname
  have hlength :
      ((c.withMethods d [pairMethod "U"]).membersOf (.named "a.Keyed" [.var "T"])).length ≠
        (c.membersOf (.named "a.Keyed" [.var "T"])).length + 1 := by
    have hbefore := congrArg List.length hbefore
    have hafter := congrArg List.length hafter
    rw [List.length_map, List.length_cons] at hbefore hafter
    omega
  have hreplaced := not_not.1 (mt hotherwise hlength)
  exact ⟨c, _, d, _, _, hc, hd, hm, rfl, hreplaced, hbefore, hafter⟩

/-- An interface with a method for values of all types, and another that overrides it, with `own`
for the type of the values. -/
def logDocument (own : String) : Document where
  types := .ofList [
    ("a.Log",
      { kind := .interfaceKind, supertypes := ["a.Sink"]
        methods := [{ name := "put", typeParams := [own], params := [own] }] }),
    ("a.Sink",
      { kind := .interfaceKind
        methods := [{ name := "put", typeParams := ["T"], params := ["T"] }] })]

/-- The method that overrides the other. -/
def putMethod (own : String) : Method where
  name := "put"
  params := [.var own]
  returns := .plain "void"
  modifiers := []
  visibility := .everywhere
  typeParams := [own]
  isAbstract := true

/-- With another name for its own type parameter the method overrides no longer, and the surface has
one entry more. -/
theorem log_overrides_no_longer :
    ∃ c c' d, (logDocument "T").catalog = .ok c ∧ c.find? "a.Log" = some d ∧
      d.methods = [putMethod "T"] ∧ (putMethod "T").rename (fun _ => "U") = putMethod "U" ∧
      isIdentifier "U" = true ∧ (c.withMethods d []).Unused (.plain "a.Log") "U" ∧
      c' = c.withMethods d [putMethod "U"] ∧
      (logDocument "U").catalog.toOption.map (·.types.entries) = some c'.types.entries ∧
      (c.membersOf (.plain "a.Log")).map Member.signature =
        ("put", ["T"]) :: (c.membersOf .object).map Member.signature ∧
      (c'.membersOf (.plain "a.Log")).map Member.signature =
        ("put", ["U"]) :: ("put", ["T"]) :: (c.membersOf .object).map Member.signature := by
  obtain ⟨c, hc, d, hd, hm, hunused, hloads, hbefore, hafter⟩ := exists_of_eval
    (logDocument "T").catalog
    (fun c => ∃ d ∈ c.find? "a.Log", d.methods = [putMethod "T"] ∧
      (∀ e ∈ (c.withMethods d []).types.entries, ∀ p ∈ e.2.typesInScope, "U" ∉ p.2.words) ∧
      (logDocument "U").catalog.toOption.map (·.types.entries) =
        some (c.withMethods d [putMethod "U"]).types.entries ∧
      (c.membersOf (.plain "a.Log")).map Member.signature =
        ("put", ["T"]) :: (c.membersOf .object).map Member.signature ∧
      ((c.withMethods d [putMethod "U"]).membersOf (.plain "a.Log")).map Member.signature =
        ("put", ["U"]) :: ("put", ["T"]) :: (c.membersOf .object).map Member.signature)
    (by decide +kernel)
  have hfresh := unused_of_entries (t := .plain "a.Log") hunused (by decide +kernel) (by decide)
  exact ⟨c, _, d, hc, hd, hm, by decide +kernel, by decide +kernel, hfresh, rfl, hloads, hbefore,
    hafter⟩

end Catalog

end BuilderPlanner
