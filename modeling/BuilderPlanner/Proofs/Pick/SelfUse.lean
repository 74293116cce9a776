import BuilderPlanner.Proofs.Catalog.GenericCall
import BuilderPlanner.Proofs.Catalog.Valid
import BuilderPlanner.Proofs.Pick.Regeneration
import BuilderPlanner.Proofs.Surface.SelfUse

/-!
# Picks on a declaration by its name and by its use

A declaration can be named as the target of a pick by its bare name, or as its own members see it,
with its parameters as arguments. The two have one surface (`Catalog.membersOf_selfUse`). But the
bare name is read in the scope of the parameters too, and a declaration that has a parameter of its
own name is lost there: the target becomes this parameter, which has no surface.

* `Catalog.pickTypes_name`, `Catalog.pickTypes_declaredType` — how the two are read;
* `pickName_eq_free_iff` — where a pick does not depend on the members;
* `Catalog.pick_selfUse_iff` — the picks on the two targets, and where they are the same.
-/

namespace BuilderPlanner

/-! ### Targets as they are read -/

namespace Catalog

variable {doc : Document} {c : Catalog} {d : Declaration}

/-- The types of a pick are read in the scope of the declaration that the target names. -/
theorem pickTypes_eq_ok {target returns : String} {type result : JavaType} {q : String}
    (htarget : readType target = .ok type) (hn : type.name? = some q) (hd : c.find? q = some d)
    (hreturns : readTypeIn d.typeParams returns = .ok result) :
    c.pickTypes target returns = .ok (type.bind d.typeParams, result) := by
  have hscope : ((type.name?.bind c.find?).map Declaration.typeParams).getD [] = d.typeParams := by
    rw [hn, Option.bind_some, hd]
    rfl
  refine bind_eq_ok_iff.2 ⟨type, htarget, ?_⟩
  rw [hscope]
  exact bind_eq_ok_iff.2 ⟨result, hreturns, rfl⟩

/-- The bare name of a declaration is read as the declaration, unless one of its parameters has this
name. -/
theorem pickTypes_name (hload : doc.catalog = .ok c) (hd : c.find? d.qualifiedName = some d)
    {returns : String} {result : JavaType}
    (hreturns : readTypeIn d.typeParams returns = .ok result) :
    c.pickTypes d.qualifiedName returns =
      .ok (if d.qualifiedName ∈ d.typeParams then .var d.qualifiedName else .plain d.qualifiedName,
        result) := by
  have hname := readType_of_isQualified (Document.legal_of_catalog hload hd).1
  refine (pickTypes_eq_ok hname rfl hd hreturns).trans ?_
  simp only [JavaType.bind, List.contains_iff_mem]

theorem pickTypes_declaredType (hload : doc.catalog = .ok c)
    (hd : c.find? d.qualifiedName = some d) {returns : String} {result : JavaType}
    (hreturns : readTypeIn d.typeParams returns = .ok result) :
    c.pickTypes d.declaredType.text returns = .ok (d.declaredType, result) := by
  have htarget := (Document.readable_of_catalog hload hd).readType_text
  rw [← d.text_declaredType] at htarget
  rw [pickTypes_eq_ok htarget rfl hd hreturns, d.bind_use]

end Catalog

/-! ### Picks -/

/-- A name is picked for everyone if no member without parameters stands in its way. -/
theorem pickName_eq_free_iff {members : List Member} {returns : JavaType} {preferred : String}
    (h : ((parameterless members).map Member.name).Nodup) :
    pickName members returns preferred = ⟨preferred, .everywhere⟩ ↔
      ∀ m ∈ parameterless members, m.name = preferred →
        m.overridable? returns = some .everywhere := by
  cases hfind : (parameterless members).find? (·.name = preferred) with
  | none =>
    rw [List.find?_eq_none] at hfind
    have hfree : ∀ m ∈ parameterless members, m.name ≠ preferred := by simpa using hfind
    exact iff_of_true (pickName_free returns hfree) fun m hm hname => absurd hname (hfree m hm)
  | some m =>
    obtain ⟨hm, rfl⟩ := (find?_key_eq_some_iff h).1 hfind
    have honly : (∀ m' ∈ parameterless members, m'.name = m.name →
        m'.overridable? returns = some .everywhere) ↔
          m.overridable? returns = some .everywhere := by
      refine ⟨fun hall => hall m hm rfl, fun hfits m' hm' hname => ?_⟩
      rwa [List.inj_on_of_nodup_map h hm' hm hname]
    rw [honly, pickName, hfind]
    cases hfits : m.overridable? returns with
    | none => simp [hfits]
    | some v => simp [hfits]

namespace Catalog

/-- **Picks on a declaration by its name and by its use.** Let a declared type be the target of a
pick, once by its bare name and once as its own members see it. Both targets are read, with the same
result type. The two have the same surface, except that a declaration with a parameter of its own
name has none by the bare name. So the same name is picked with the same visibility just when no
parameter has the name of the declaration, or every member without parameters that has the preferred
name can be overridden by a method for everyone. -/
theorem pick_selfUse_iff {doc : Document} {c : Catalog} (hload : doc.catalog = .ok c) {q : String}
    {d : Declaration} (hd : c.find? q = some d) {returns : String} (hreturns : IsTypeText returns) :
    ∃ target result, c.pickTypes q returns = .ok (target, result) ∧
      c.pickTypes d.declaredType.text returns = .ok (d.declaredType, result) ∧
      c.membersOf target = (if q ∈ d.typeParams then [] else c.membersOf d.declaredType) ∧
      ∀ preferred, c.pickName target result preferred =
          c.pickName d.declaredType result preferred ↔
        (q ∈ d.typeParams → ∀ m ∈ parameterless (c.membersOf d.declaredType),
          m.name = preferred → m.overridable? result = some .everywhere) := by
  obtain rfl := Document.qualifiedName_of_catalog hload hd
  obtain ⟨result, hresult⟩ : ∃ result, readTypeIn d.typeParams returns = .ok result :=
    exists_readTypeIn_iff.2 hreturns
  refine ⟨_, result, pickTypes_name hload hd hresult, pickTypes_declaredType hload hd hresult, ?_⟩
  by_cases hq : d.qualifiedName ∈ d.typeParams
  · have hlost : c.membersOf (.var d.qualifiedName) = [] := membersOf_eq_nil Bool.false_ne_true
    rw [if_pos hq, if_pos hq]
    refine ⟨hlost, fun preferred => ?_⟩
    have hfree : ∀ m ∈ parameterless [], m.name ≠ preferred := fun m hm =>
      absurd hm List.not_mem_nil
    rw [pickName, hlost, pickName_free result hfree, eq_comm, pickName,
      pickName_eq_free_iff (nodup_name_membersOf c d.declaredType)]
    exact ⟨fun h _ => h, fun h => h hq⟩
  · rw [if_neg hq, if_neg hq]
    refine ⟨membersOf_selfUse hd, fun preferred => iff_of_true ?_ fun h => absurd h hq⟩
    rw [pickName, membersOf_selfUse hd, pickName]

/-- A private method. -/
def privateValue : MethodEntry :=
  { name := "value", returns := "int", modifiers := [.privateAccess] }

/-- A generic type, and one with a parameter of its own name. -/
def parcelDocument : Document where
  types := .ofList [
    ("T", { typeParams := ["T"], methods := [privateValue] }),
    ("a.Parcel", { typeParams := ["T"], methods := [privateValue] })]

/-- The picks on a type by its bare name and by its use are the same if its parameter has another
name. -/
theorem pick_on_parcel :
    ∃ c d, parcelDocument.catalog = .ok c ∧ c.find? "a.Parcel" = some d ∧ IsTypeText "int" ∧
      ∃ target result, c.pickTypes "a.Parcel" "int" = .ok (target, result) ∧
        c.pickTypes d.declaredType.text "int" = .ok (d.declaredType, result) ∧
        c.pickName d.declaredType result "value" = ⟨"_valueImpl", .package⟩ ∧
        c.pickName target result "value" = ⟨"_valueImpl", .package⟩ := by
  obtain ⟨c, hc, d, hd, hparams, hpick⟩ := exists_of_eval parcelDocument.catalog
    (fun c => ∃ d ∈ c.find? "a.Parcel", "a.Parcel" ∉ d.typeParams ∧
      ∀ types ∈ (c.pickTypes d.declaredType.text "int").toOption,
        c.pickName d.declaredType types.2 "value" = ⟨"_valueImpl", .package⟩)
    (by decide +kernel)
  have hint : IsTypeText "int" := ⟨.plain "int", toOption_eq_some_iff.1 (by decide +kernel)⟩
  obtain ⟨target, result, htarget, hself, -, hsame⟩ := pick_selfUse_iff hc hd hint
  have hvalue : c.pickName d.declaredType result "value" = ⟨"_valueImpl", .package⟩ :=
    hpick _ (toOption_eq_some_iff.2 hself)
  refine ⟨c, d, hc, hd, hint, target, result, htarget, hself, hvalue, ?_⟩
  rw [(hsame "value").2 fun h => absurd h hparams, hvalue]

/-- On a type that is named like its parameter, the name of a private method is picked as if it was
free. As its own members see the type, an alternative is picked. -/
theorem pick_on_lost_target :
    ∃ c d, parcelDocument.catalog = .ok c ∧ c.find? "T" = some d ∧ d.declaredType.text = "T<T>" ∧
      (∃ target result, c.pickTypes "T" "int" = .ok (target, result) ∧
        c.pickName target result "value" = ⟨"value", .everywhere⟩) ∧
      ∃ target result, c.pickTypes "T<T>" "int" = .ok (target, result) ∧
        c.pickName target result "value" = ⟨"_valueImpl", .package⟩ := by
  obtain ⟨c, hc, ⟨d, hd, htext⟩, hname, huse⟩ := exists_of_eval parcelDocument.catalog
    (fun c => (∃ d ∈ c.find? "T", d.declaredType.text = "T<T>") ∧
      (∃ types ∈ (c.pickTypes "T" "int").toOption,
        c.pickName types.1 types.2 "value" = ⟨"value", .everywhere⟩) ∧
      ∃ types ∈ (c.pickTypes "T<T>" "int").toOption,
        c.pickName types.1 types.2 "value" = ⟨"_valueImpl", .package⟩)
    (by decide +kernel)
  obtain ⟨⟨target, result⟩, htypes, hpick⟩ := hname
  obtain ⟨⟨target', result'⟩, htypes', hpick'⟩ := huse
  exact ⟨c, d, hc, hd, htext, ⟨target, result, toOption_eq_some_iff.1 htypes, hpick⟩,
    target', result', toOption_eq_some_iff.1 htypes', hpick'⟩

end Catalog

end BuilderPlanner
