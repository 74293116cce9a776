import BuilderPlanner.Property.Basic
import BuilderPlanner.Proofs.Catalog.Loaded
import BuilderPlanner.Proofs.Name.Capital
import BuilderPlanner.Proofs.Surface.Reached

/-!
# Names of getters

* `IsStem`, `Member.stem?`, `beanSuffix?_eq_some_iff` — the part of a name after `get` or `is`;
* `name_shortProperty`, `capitalized_shortProperty` — what it has to do with names of properties;
* `Document.isIdentifier_of_mem_membersOf` — in a catalog that was loaded, names of members are
  identifiers.
-/

namespace BuilderPlanner

open Unicode

/-! ### Stems -/

/-- A text that may stand after `get` or `is` as the name of a property. -/
def IsStem (stem : String) : Prop :=
  ∃ c rest, stem.toList = c :: rest ∧ isUppercaseLetter c = true ∧ '\n' ∉ rest

theorem IsStem.isCapitalized {stem : String} (h : IsStem stem) : IsCapitalized stem := by
  obtain ⟨c, rest, hstem, hc, -⟩ := h
  exact ⟨c, rest, hstem, hc⟩

theorem get_append_ne_is_append {s t : String} : "get" ++ s ≠ "is" ++ t := by
  intro h
  have h := congrArg String.toList h
  rw [String.toList_append, String.toList_append] at h
  exact absurd (List.cons.inj h).1 (by decide)

theorem suffixAfter?_eq_some_iff {start : String} {name suffix : List Char} :
    suffixAfter? start name = some suffix ↔
      name = start.toList ++ suffix ∧ IsStem (String.ofList suffix) := by
  have hcond : ∀ (c : Char) (rest : List Char),
      (isUppercaseLetter c && !rest.contains '\n') = true ↔
        isUppercaseLetter c = true ∧ '\n' ∉ rest := by
    intro c rest
    simp
  simp only [IsStem, String.toList_ofList]
  unfold suffixAfter?
  constructor
  · intro h
    split at h
    · rename_i hprefix
      obtain ⟨tail, rfl⟩ := List.isPrefixOf_iff_prefix.1 hprefix
      rw [← String.length_toList, List.drop_left] at h
      cases tail with
      | nil => cases h
      | cons c rest =>
        simp only at h
        split at h
        · rename_i hstem
          obtain rfl := Option.some.inj h
          exact ⟨rfl, c, rest, rfl, (hcond c rest).1 hstem⟩
        · cases h
    · cases h
  · intro h
    obtain ⟨rfl, c, rest, rfl, hstem⟩ := h
    rw [if_pos (List.isPrefixOf_iff_prefix.2 (List.prefix_append _ _)), ← String.length_toList,
      List.drop_left]
    simp only [(hcond c rest).2 hstem, if_true]

theorem map_suffixAfter?_eq_some_iff {start getter stem : String} :
    (suffixAfter? start getter.toList).map String.ofList = some stem ↔
      getter = start ++ stem ∧ IsStem stem := by
  rw [Option.map_eq_some_iff]
  constructor
  · intro h
    obtain ⟨suffix, h, rfl⟩ := h
    obtain ⟨hgetter, hstem⟩ := suffixAfter?_eq_some_iff.1 h
    refine ⟨String.toList_injective ?_, hstem⟩
    rw [hgetter, String.toList_append, String.toList_ofList]
  · intro h
    obtain ⟨rfl, hstem⟩ := h
    refine ⟨stem.toList, suffixAfter?_eq_some_iff.2 ⟨String.toList_append, ?_⟩,
      String.ofList_toList⟩
    rwa [String.ofList_toList]

/-- A getter has a stem after `get` or, if it gives a truth value, after `is`. -/
theorem beanSuffix?_eq_some_iff {getter stem : String} {type : JavaType} :
    beanSuffix? getter type = some stem ↔
      (getter = "get" ++ stem ∨ type.isBoolean = true ∧ getter = "is" ++ stem) ∧ IsStem stem := by
  have heq : beanSuffix? getter type = ((suffixAfter? "get" getter.toList).map String.ofList).or
      (if type.isBoolean then (suffixAfter? "is" getter.toList).map String.ofList else none) := by
    unfold beanSuffix?
    cases suffixAfter? "get" getter.toList <;> rfl
  rw [heq, Option.or_eq_some_iff, map_suffixAfter?_eq_some_iff]
  constructor
  · intro h
    rcases h with ⟨hgetter, hstem⟩ | ⟨-, h⟩
    · exact ⟨.inl hgetter, hstem⟩
    · split at h
      · rename_i hboolean
        obtain ⟨hgetter, hstem⟩ := map_suffixAfter?_eq_some_iff.1 h
        exact ⟨.inr ⟨hboolean, hgetter⟩, hstem⟩
      · cases h
  · intro h
    obtain ⟨hgetter | ⟨hboolean, hgetter⟩, hstem⟩ := h
    · exact .inl ⟨hgetter, hstem⟩
    · refine .inr ⟨?_, ?_⟩
      · rw [Option.eq_none_iff_forall_ne_some]
        intro stem' h
        obtain ⟨hget, -⟩ := map_suffixAfter?_eq_some_iff.1 h
        exact get_append_ne_is_append (hget.symm.trans hgetter)
      · rw [if_pos hboolean]
        exact map_suffixAfter?_eq_some_iff.2 ⟨hgetter, hstem⟩

/-- The part of the name of a getter that names its property, if beginnings are dropped. -/
def Member.stem? (m : Member) : Option String := beanSuffix? m.name m.returns

theorem name_shortProperty (m : Member) :
    (shortProperty m).name = (m.stem?.map decapitalize).getD m.name := by
  unfold shortProperty Member.stem?
  cases beanSuffix? m.name m.returns with
  | none => rfl
  | some stem => rfl

theorem getter_shortProperty (m : Member) : (shortProperty m).getter = m.name := by
  unfold shortProperty
  cases beanSuffix? m.name m.returns with
  | none => rfl
  | some stem => rfl

theorem type_shortProperty (m : Member) : (shortProperty m).type = m.returns := by
  unfold shortProperty
  cases beanSuffix? m.name m.returns with
  | none => rfl
  | some stem => rfl

theorem capitalized_shortProperty (m : Member) :
    (shortProperty m).capitalized = m.stem?.getD (capitalize m.name) := by
  unfold shortProperty Member.stem?
  cases beanSuffix? m.name m.returns with
  | none => rfl
  | some stem => rfl

/-! ### Names of members -/

/-- Names of methods are checked when a document is loaded. -/
theorem Document.isIdentifier_of_mem_methods {doc : Document} {c : Catalog}
    (hload : doc.catalog = .ok c) {n : String} {d : Declaration} (hd : c.find? n = some d)
    {m : Method} (hm : m ∈ d.methods) : isIdentifier m.name = true := by
  rcases Document.declared_of_catalog hload hd with ⟨t, -, ht⟩ | ⟨-, rfl⟩
  · obtain ⟨-, -, -, -, _, -, ms, hms, _, -, rfl⟩ := TypeEntry.declare_eq_ok_iff.1 ht
    obtain ⟨e, -, he⟩ := exists_of_mem_of_mapM_eq_ok hms hm
    obtain ⟨hname, -, -, _, -, _, -, rfl⟩ := MethodEntry.declare_eq_ok_iff.1 he
    exact hname
  · have hroot : ∀ m ∈ objectDeclaration.methods, isIdentifier m.name = true := by
      decide +kernel
    exact hroot m hm

theorem Document.isIdentifier_of_mem_membersOf {doc : Document} {c : Catalog}
    (hload : doc.catalog = .ok c) {t : JavaType} {e : Member} (he : e ∈ c.membersOf t) :
    isIdentifier e.name = true := by
  by_cases ht : c.declares t = true
  · obtain ⟨us, hus⟩ := c.exists_visits [t, .object] []
    obtain ⟨u, hu, he⟩ := hus.exists_of_mem_membersOf ht he
    obtain ⟨n, hn, -, hd⟩ := hus.declared u hu
    obtain ⟨d, hd⟩ := Option.ne_none_iff_exists'.1 hd
    rw [Catalog.ownMembers_eq hn hd] at he
    obtain ⟨m, hm, rfl⟩ := List.mem_map.1 he
    exact Document.isIdentifier_of_mem_methods hload hd hm
  · rw [Catalog.membersOf_eq_nil ht] at he
    exact absurd he List.not_mem_nil

/-- What stands after the beginning of an identifier may stand in an identifier. -/
theorem continuesIdentifier_of_stem? {m : Member} {stem : String}
    (hname : isIdentifier m.name = true) (h : m.stem? = some stem) : ContinuesIdentifier stem := by
  obtain ⟨hbeginning, -⟩ := beanSuffix?_eq_some_iff.1 h
  have hmem : ∀ x ∈ stem.toList, x ∈ m.name.toList := by
    intro x hx
    rcases hbeginning with heq | ⟨-, heq⟩
    · rw [heq, String.toList_append]
      exact List.mem_append_right _ hx
    · rw [heq, String.toList_append]
      exact List.mem_append_right _ hx
  intro x hx
  exact continuesIdentifier_of_mem (isIdentifier_iff.1 hname).1 (hmem x hx)

end BuilderPlanner
