import BuilderPlanner.Proofs.Property.MethodNames
import BuilderPlanner.Proofs.Plan.PropertyNames

/-!
# Which names of a plan are identifiers

Names of methods are checked when a document is loaded. The names in a plan are made of them and are
not checked again.

* `isIdentifier_alternativeName` — alternatives of identifiers are identifiers;
* `isIdentifier_methodNames_iff` — the names of builder methods are, if the name with a capital goes
  on as an identifier does;
* `continuesIdentifier_capitalized_iff` — it does unless the first letter of the getter has an upper
  case of several characters, one of them no identifier character;
* `Catalog.isIdentifier_iff_of_plan` — which names of a plan are identifiers.
-/

namespace BuilderPlanner

open Unicode

/-! ### Alternatives -/

theorem continuesIdentifier_of_isDigit {c : Char} (h : c.isDigit = true) :
    continuesIdentifier c = true := by
  have hdigits : ∀ code ∈ List.range' 48 10, Span.anyCovers numbers code = true := by
    decide +kernel
  have hcode : 48 ≤ c.toNat ∧ c.toNat ≤ 57 := Char.isDigit_iff_toNat.1 h
  rw [continuesIdentifier, isNumber, hdigits _ (List.mem_range'_1.2 ⟨hcode.1, by omega⟩),
    Bool.or_true]

/-- No reserved word begins with an underscore. -/
theorem isIdentifier_alternativeName {name : String} (h : isIdentifier name = true) (n : ℕ) :
    isIdentifier (alternativeName name n) = true := by
  have hfree : FreeStart "_" := by decide +kernel
  have himpl : ContinuesIdentifier "Impl" := by decide +kernel
  have hnumber : ContinuesIdentifier (if n ≤ 1 then "" else toString n) := by
    split
    · exact fun x hx => absurd hx List.not_mem_nil
    · intro x hx
      have hdigits : (toString n).toList = Nat.toDigits 10 n := by simp
      rw [hdigits] at hx
      exact continuesIdentifier_of_isDigit (Nat.isDigit_of_mem_toDigits (by decide) (by decide) hx)
  rw [alternativeName, String.append_assoc, String.append_assoc, hfree.isIdentifier_append,
    continuesIdentifier_append, continuesIdentifier_append]
  exact ⟨continuesIdentifier_of_isIdentifier h, himpl, hnumber⟩

theorem isIdentifier_pickOn {surface : Option (List Member)} {returns : JavaType}
    {preferred : String} (h : isIdentifier preferred = true) :
    isIdentifier (pickOn surface returns preferred).name = true := by
  unfold pickOn pickName
  split
  · split
    · exact h
    · split
      · exact h
      · exact isIdentifier_alternativeName h _
  · exact h

/-! ### Builder methods -/

theorem methodFrames_free :
    ∀ f ∈ methodFrames, FreeStart f.1 ∧ ContinuesIdentifier f.2 := by decide +kernel

theorem isIdentifier_methodNames_iff {p : Property} (hgetter : isIdentifier p.getter = true) :
    (∀ n ∈ p.methodNames.toList.map Prod.snd, isIdentifier n = true) ↔
      ContinuesIdentifier p.capitalized := by
  have hframe : ∀ f ∈ methodFrames,
      isIdentifier (f.1 ++ p.capitalized ++ f.2) = true ↔ ContinuesIdentifier p.capitalized := by
    intro f hf
    obtain ⟨hfree, hafter⟩ := methodFrames_free f hf
    rw [String.append_assoc, hfree.isIdentifier_append, continuesIdentifier_append]
    exact and_iff_left hafter
  rw [map_snd_methodNames, List.forall_mem_cons, and_iff_right hgetter, List.forall_mem_map]
  constructor
  · intro h
    have hfirst : ("set", "") ∈ methodFrames := List.mem_cons_self
    exact (hframe _ hfirst).1 (h _ hfirst)
  · intro h f hf
    exact (hframe f hf).2 h

/-! ### Names with a capital -/

/-- The upper case of the first character may stand in an identifier after its first character. -/
def UpperContinues (name : String) : Prop :=
  ∀ c ∈ name.toList.head?, ∀ x ∈ toUpper c, continuesIdentifier x = true

theorem continuesIdentifier_capitalize_iff {name : String} (h : isIdentifier name = true) :
    ContinuesIdentifier (capitalize name) ↔ UpperContinues name := by
  have hcontinues := continuesIdentifier_of_isIdentifier h
  unfold capitalize UpperContinues
  cases hname : name.toList with
  | nil =>
    rw [isIdentifier_iff, hname] at h
    cases h.1
  | cons c rest =>
    have hrest : ∀ x ∈ rest, continuesIdentifier x = true :=
      fun x hx => hcontinues x (hname ▸ List.mem_cons_of_mem c hx)
    rw [ContinuesIdentifier, String.toList_ofList, List.forall_mem_append, and_iff_left hrest,
      List.head?_cons]
    simp only [Option.mem_def, Option.some.injEq, forall_eq']

/-- The upper case of `ǰ` is a letter and a combining caron. -/
example : isIdentifier "ǰ" = true ∧ ¬ContinuesIdentifier (capitalize "ǰ") := by decide +kernel

/-- The upper cases of the first letters of `get` and `is` are single letters. -/
theorem upperContinues_of_stem? {m : Member} {stem : String} (h : m.stem? = some stem) :
    UpperContinues m.name := by
  have hget : (toUpper 'g').all continuesIdentifier = true := by decide +kernel
  have his : (toUpper 'i').all continuesIdentifier = true := by decide +kernel
  obtain ⟨hname | ⟨-, hname⟩, -⟩ := beanSuffix?_eq_some_iff.1 h
  · intro c hc
    rw [hname, String.toList_append] at hc
    obtain rfl := Option.some.inj hc
    exact List.all_eq_true.1 hget
  · intro c hc
    rw [hname, String.toList_append] at hc
    obtain rfl := Option.some.inj hc
    exact List.all_eq_true.1 his

/-! ### Properties -/

/-- What is known of the names of a property: its getter is an identifier, its own name is one if it
is not reserved and has no combining dot, and the names of its builder methods are if the upper case
of the first character of the getter allows. -/
structure NameLegality (name getter : String) (methods : MethodNames) : Prop where
  of_getter : isIdentifier getter = true
  of_name : isIdentifier name = true ↔ name ∉ reservedWords ∧ combiningDot ∉ name.toList
  of_methods : (∀ n ∈ methods.toList.map Prod.snd, isIdentifier n = true) ↔ UpperContinues getter

section

variable {m : Member} (hm : isIdentifier m.name = true)

include hm

theorem nameLegality_of_kept {p : Property} (hname : p.name = m.name) (hgetter : p.getter = m.name)
    (hcapitalized : p.capitalized = capitalize m.name) :
    NameLegality p.name p.getter p.methodNames where
  of_getter := hgetter ▸ hm
  of_name := by
    have hdot : combiningDot ∉ m.name.toList := fun hdot =>
      not_continuesIdentifier_combiningDot (continuesIdentifier_of_isIdentifier hm _ hdot)
    rw [hname]
    exact iff_of_true hm ⟨(isIdentifier_iff.1 hm).2, hdot⟩
  of_methods := by
    rw [isIdentifier_methodNames_iff (hgetter ▸ hm), hcapitalized, hgetter]
    exact continuesIdentifier_capitalize_iff hm

theorem nameLegality_shortProperty :
    NameLegality (shortProperty m).name (shortProperty m).getter (shortProperty m).methodNames := by
  have hgetter : (shortProperty m).getter = m.name := getter_shortProperty m
  have hname := name_shortProperty m
  have hcapitalized := capitalized_shortProperty m
  cases hstem : m.stem? with
  | none =>
    rw [hstem] at hname hcapitalized
    exact nameLegality_of_kept hm hname hgetter hcapitalized
  | some stem =>
    rw [hstem] at hname hcapitalized
    have hcontinues := continuesIdentifier_of_stem? hm hstem
    refine ⟨hgetter ▸ hm, ?_, ?_⟩
    · rw [hname]
      exact isIdentifier_decapitalize_iff (beanSuffix?_eq_some_iff.1 hstem).2.isCapitalized
        hcontinues
    · rw [isIdentifier_methodNames_iff (hgetter ▸ hm), hcapitalized, hgetter]
      exact iff_of_true hcontinues (upperContinues_of_stem? hstem)

end

namespace Catalog

variable {doc : Document} {c : Catalog} {preferences : Preferences} {valueType : String}
  {d : Declaration}

theorem nameLegality_of_mem_propertiesOf (hload : doc.catalog = .ok c) {convention : Convention}
    {q : Property} (hq : q ∈ propertiesOf (c.membersOf d.declaredType) convention) :
    NameLegality q.name q.getter q.methodNames := by
  obtain ⟨m, hm, rfl⟩ := List.mem_map.1 hq
  have hname : isIdentifier m.name = true := isIdentifier_of_mem_gettersOf (d := d) hload hm
  split
  · exact nameLegality_shortProperty hname
  · exact nameLegality_of_kept hname rfl rfl rfl

/-- **Which names of a plan are identifiers.** A declared value type has a plan. All names that are
picked in it are identifiers. So are the names of its properties, except reserved words and names
with a combining dot, and the names of their builder methods, except where the getter begins with a
character whose upper case may not stand in an identifier. -/
theorem isIdentifier_iff_of_plan (hload : doc.catalog = .ok c)
    (hcheck : preferences.check = .ok ()) (hd : c.find? valueType = some d) :
    ∃ p, c.plan preferences valueType = .ok p ∧ (∀ n ∈ p.pickedNames, isIdentifier n = true) ∧
      ∀ q ∈ p.properties, NameLegality q.name q.getter q.methods := by
  refine ⟨_, plan_eq_ok hcheck hd, ?_, ?_⟩
  · rw [pickedNames_planFor, List.forall_mem_map]
    intro wanted hwanted
    apply isIdentifier_pickOn
    rw [wantedNames, List.mem_append] at hwanted
    rcases hwanted with hmember | hgetter
    · have hmembers : ∀ n ∈ builderMemberNames, isIdentifier n = true := by decide +kernel
      refine hmembers wanted.1 ?_
      rw [← map_fst_builderMembers]
      exact List.mem_map_of_mem hmember
    · obtain ⟨q, hq, rfl⟩ := List.mem_map.1 hgetter
      exact (nameLegality_of_mem_propertiesOf hload hq).of_getter
  · intro q hq
    obtain ⟨r, hr, rfl⟩ := List.mem_map.1 hq
    exact nameLegality_of_mem_propertiesOf hload hr

/-- The property of the getter `getDefault` is called by a reserved word. -/
theorem getter_named_getDefault :
    ∃ c, (oneGetter "getDefault").catalog = .ok c ∧ ({} : Preferences).check = .ok () ∧
      (c.find? "a.House").isSome = true ∧
      ∃ p, c.plan {} "a.House" = .ok p ∧
        ∃ q ∈ p.properties, q.name = "default" ∧ ¬isIdentifier q.name = true := by
  obtain ⟨c, hc, hd, p, hp, hq⟩ := exists_of_eval (oneGetter "getDefault").catalog
    (fun c => (c.find? "a.House").isSome = true ∧ ∃ p ∈ (c.plan {} "a.House").toOption,
      ∃ q ∈ p.properties, q.name = "default" ∧ ¬isIdentifier q.name = true)
    (by decide +kernel)
  exact ⟨c, hc, check_default, hd, p, toOption_eq_some_iff.1 hp, hq⟩

/-- The getter `getRooms` gives rise to identifiers only. -/
theorem getter_named_getRooms :
    ∃ c, (oneGetter "getRooms").catalog = .ok c ∧
      ∃ p, c.plan {} "a.House" = .ok p ∧ (∀ n ∈ p.pickedNames, isIdentifier n = true) ∧
        ∀ q ∈ p.properties, isIdentifier q.name = true := by
  obtain ⟨c, hc, d, hd, hnames⟩ := exists_of_eval (oneGetter "getRooms").catalog
    (fun c => ∃ d ∈ c.find? "a.House", (c.plan {} "a.House").toOption.all fun p =>
      p.properties.all fun q => q.name ∉ reservedWords ∧ combiningDot ∉ q.name.toList)
    (by decide +kernel)
  obtain ⟨p, hp, hpicked, hq⟩ := isIdentifier_iff_of_plan hc check_default hd
  refine ⟨c, hc, p, hp, hpicked, fun q hmem => (hq q hmem).of_name.2 ?_⟩
  rw [hp] at hnames
  exact of_decide_eq_true (List.all_eq_true.1 hnames q hmem)

end Catalog

end BuilderPlanner
