import BuilderPlanner.Proofs.Plan.PropertyNames
import BuilderPlanner.Proofs.Surface.Instances
import BuilderPlanner.Proofs.Surface.SelfUse

/-!
# Which methods become properties

A plan has a property for every abstract method of instances on the surface of its value type that
has a result and no parameters, as long as the root class does not declare it. A walk visits the
value type first, so what the value type declares itself is decided there: a method with a body, or
a static one, leaves no property to an abstract method of its name further up.

* `Method.LacksBody`, `Document.isAbstract_iff_of_catalog` — which methods are abstract, by their
  modifiers;
* `Member.isGetter_iff` — which members give properties;
* `Catalog.find?_membersOf_of_own` — a method that a type declares itself is on its surface;
* `Catalog.properties_of_plan` — the properties of a plan.
-/

namespace BuilderPlanner

/-! ### Abstract methods -/

/-- Whether a declared method has no body. In a class such a method is marked; in an interface it is
one that has no mark of a body. -/
def Method.LacksBody (kind : Kind) (m : Method) : Prop :=
  match kind with
  | .classKind => .isAbstract ∈ m.modifiers
  | .interfaceKind =>
    .isDefault ∉ m.modifiers ∧ .isStatic ∉ m.modifiers ∧ .privateAccess ∉ m.modifiers

instance (kind : Kind) (m : Method) : Decidable (m.LacksBody kind) :=
  match kind with
  | .classKind => inferInstanceAs (Decidable (_ ∈ _))
  | .interfaceKind => inferInstanceAs (Decidable (_ ∉ _ ∧ _ ∉ _ ∧ _ ∉ _))

/-- Whether a declared method without parameters makes a property of the type that declares it. -/
def Method.GivesProperty (kind : Kind) (m : Method) : Prop :=
  m.LacksBody kind ∧ .isStatic ∉ m.modifiers ∧ m.returns ≠ .plain "void"

instance (kind : Kind) (m : Method) : Decidable (m.GivesProperty kind) :=
  inferInstanceAs (Decidable (_ ∧ _ ∧ _))

/-- The abstract methods in a loaded catalog are those without a body. -/
theorem Document.isAbstract_iff_of_catalog {doc : Document} {c : Catalog}
    (hload : doc.catalog = .ok c) {n : String} {d : Declaration} (hd : c.find? n = some d)
    {m : Method} (hm : m ∈ d.methods) : m.isAbstract = true ↔ m.LacksBody d.kind := by
  rcases Document.declared_of_catalog hload hd with ⟨t, -, ht⟩ | ⟨-, rfl⟩
  · obtain ⟨-, -, -, -, _, -, ms, hms, _, -, rfl⟩ := TypeEntry.declare_eq_ok_iff.1 ht
    obtain ⟨e, -, he⟩ := exists_of_mem_of_mapM_eq_ok hms hm
    obtain ⟨-, -, -, _, -, _, -, rfl⟩ := MethodEntry.declare_eq_ok_iff.1 he
    show e.isAbstractIn t.kind = true ↔ Method.LacksBody t.kind _
    cases hkind : t.kind with
    | classKind => simp [MethodEntry.isAbstractIn, Method.LacksBody]
    | interfaceKind => simp [MethodEntry.isAbstractIn, Method.LacksBody, and_assoc]
  · have hroot : ∀ m ∈ objectDeclaration.methods,
        m.isAbstract = true ↔ m.LacksBody objectDeclaration.kind := by decide +kernel
    exact hroot m hm

/-! ### Members that give properties -/

theorem JavaType.isVoid_iff {t : JavaType} : t.isVoid = true ↔ t = .plain "void" := by
  cases t with
  | named n args =>
    cases args with
    | nil => simp [isVoid]
    | cons _ _ => simp [isVoid]
  | var | array | wildcard | bounded => simp [isVoid]

theorem Member.isGetter_iff {e : Member} :
    e.isGetter = true ↔ e.isAbstract = true ∧ e.params = [] ∧ .isStatic ∉ e.modifiers ∧
      e.returns ≠ .plain "void" ∧ e.declaredIn ≠ JavaType.objectName := by
  rw [Ne, ← JavaType.isVoid_iff]
  simp [isGetter, isStatic, and_assoc]

namespace Catalog

variable {doc : Document} {c : Catalog} {preferences : Preferences} {valueType : String}
  {d : Declaration} {m : Method} {g : String}

/-- Properties come in the order of their getters and with their types. -/
theorem map_getter_type_properties_planFor (c : Catalog) (preferences : Preferences)
    (valueType : String) (d : Declaration) :
    (c.planFor preferences valueType d).properties.map (fun q => (q.getter, q.type)) =
      (c.gettersOf d).map fun e => (e.name, e.returns.text) := by
  rw [map_properties_planFor (g := fun r => (r.getter, r.type.text)) fun _ _ => rfl]
  have hpairs := congrArg (List.map (Prod.map id JavaType.text))
    (map_getter_type_propertiesOf (c.membersOf d.declaredType) preferences.convention)
  rwa [List.map_map, List.map_map] at hpairs

/-! ### Own methods -/

/-- The first method without parameters that a type itself declares under a name is the one of this
name on its surface. -/
theorem find?_membersOf_of_own {t : JavaType} {n : String} (hn : t.name? = some n)
    (hd : c.find? n = some d)
    (hm : d.methods.find? (fun m => m.name = g ∧ m.params = []) = some m) :
    (c.membersOf t).find? (·.signature = (g, [])) =
      some (m.seenThrough (d.bindings t.args) d.qualifiedName) := by
  have ht : c.declares t = true := (declares_eq hn).trans (Option.isSome_of_eq_some hd)
  obtain ⟨us, hus⟩ := c.exists_visits (c.supertypesOf t ++ [.object]) [n]
  have hfirst : c.Visits [t, .object] [] (t :: us) := .first hn List.not_mem_nil hd hus
  rw [hfirst.find?_membersOf ht, List.flatMap_cons, List.find?_append, find?_ownMembers hn hd, hm]
  rfl

/-- Inside its declaration a method is seen with its own result. -/
theorem returns_seenThrough_declaredType (d : Declaration) (m : Method) (owner : String) :
    (m.seenThrough (d.bindings d.declaredType.args) owner).returns = m.returns :=
  Bindings.substitute_eq_self
    (fun e he => Declaration.bindings_self (.inr rfl) e (Bindings.mem_of_mem_without he)) m.returns

/-- A getter under the name of an own method is this method, and it is one if the method makes a
property. -/
theorem mem_gettersOf_iff_of_own (hload : doc.catalog = .ok c)
    (hd : c.find? d.qualifiedName = some d) (hroot : d.qualifiedName ≠ JavaType.objectName)
    (hm : d.methods.find? (fun m => m.name = g ∧ m.params = []) = some m) {e : Member} :
    e ∈ c.gettersOf d ∧ e.name = g ↔
      m.GivesProperty d.kind ∧
        e = m.seenThrough (d.bindings d.declaredType.args) d.qualifiedName := by
  have hfound := find?_membersOf_of_own (t := d.declaredType) rfl hd hm
  have hmatch : m.name = g ∧ m.params = [] := by simpa using List.find?_some hm
  have hown : (m.seenThrough (d.bindings d.declaredType.args) d.qualifiedName).isGetter = true ↔
      m.GivesProperty d.kind := by
    rw [Member.isGetter_iff, returns_seenThrough_declaredType, Method.GivesProperty,
      ← Document.isAbstract_iff_of_catalog hload hd (List.mem_of_find?_eq_some hm)]
    simp [Method.seenThrough, hmatch.2, hroot]
  rw [gettersOf, List.mem_filter]
  constructor
  · intro h
    obtain ⟨⟨hmem, hgetter⟩, hname⟩ := h
    have hsignature := signature_eq_iff.2 ⟨hname, (Member.isGetter_iff.1 hgetter).2.1⟩
    rw [(find?_key_eq_some_iff (c.nodup_signature_membersOf _)).2 ⟨hmem, hsignature⟩] at hfound
    obtain rfl := Option.some.inj hfound
    exact ⟨hown.1 hgetter, rfl⟩
  · intro h
    obtain ⟨hgives, rfl⟩ := h
    exact ⟨⟨List.mem_of_find?_eq_some hfound, hown.2 hgives⟩, hmatch.1⟩

/-- **Which methods become properties.** A declared value type has a plan. Its properties are, in
order, the abstract methods of instances on the surface of the value type that have a result and no
parameters and are not declared by the root class, and no two of them have the same getter. If the
value type, which is not to be the root class, declares methods without parameters under a name
itself, the first of them decides: if it makes a property, exactly one property has it as its getter,
and this has its result type; else none has a getter of this name, whatever the supertypes declare. -/
theorem properties_of_plan {doc : Document} {c : Catalog} (hload : doc.catalog = .ok c)
    {preferences : Preferences} (hcheck : preferences.check = .ok ()) {valueType : String}
    {d : Declaration} (hd : c.find? valueType = some d) :
    ∃ p, c.plan preferences valueType = .ok p ∧
      p.properties.map (fun q => (q.getter, q.type)) =
        ((c.membersOf d.declaredType).filter fun e => e.isAbstract = true ∧ e.params = [] ∧
          .isStatic ∉ e.modifiers ∧ e.returns ≠ .plain "void" ∧
          e.declaredIn ≠ JavaType.objectName).map (fun e => (e.name, e.returns.text)) ∧
      (p.properties.map (·.getter)).Nodup ∧
      (valueType ≠ JavaType.objectName → ∀ g m,
        d.methods.find? (fun m => m.name = g ∧ m.params = []) = some m →
        (m.GivesProperty d.kind → (∃! q, q ∈ p.properties ∧ q.getter = g) ∧
          ∀ q ∈ p.properties, q.getter = g → q.type = m.returns.text) ∧
        (¬m.GivesProperty d.kind → ∀ q ∈ p.properties, q.getter ≠ g)) := by
  obtain rfl := Document.qualifiedName_of_catalog hload hd
  have hpairs := c.map_getter_type_properties_planFor preferences d.qualifiedName d
  have hgetters : (c.planFor preferences d.qualifiedName d).properties.map (·.getter) =
      (c.gettersOf d).map Member.name := by
    have hfst := congrArg (List.map Prod.fst) hpairs
    rwa [List.map_map, List.map_map] at hfst
  have hnodup := hgetters ▸ nodup_name_gettersOf c d
  -- a property is known by a getter of its name and type
  have hfrom : ∀ q ∈ (c.planFor preferences d.qualifiedName d).properties,
      ∃ e ∈ c.gettersOf d, e.name = q.getter ∧ e.returns.text = q.type := by
    intro q hq
    have hmem := List.mem_map_of_mem (f := fun q => (q.getter, q.type)) hq
    rw [hpairs] at hmem
    obtain ⟨e, he, heq⟩ := List.mem_map.1 hmem
    exact ⟨e, he, Prod.mk.inj heq⟩
  refine ⟨_, plan_eq_ok hcheck hd, ?_, hnodup, fun hroot g m hm => ⟨fun hgives => ⟨?_, ?_⟩, ?_⟩⟩
  · rw [hpairs, gettersOf]
    congr 1
    refine List.filter_congr fun e _ => ?_
    rw [Bool.eq_iff_iff, Member.isGetter_iff, decide_eq_true_iff]
  · obtain ⟨hmem, hname⟩ := (mem_gettersOf_iff_of_own hload hd hroot hm).2 ⟨hgives, rfl⟩
    have hq := List.mem_map_of_mem (f := Member.name) hmem
    rw [← hgetters] at hq
    obtain ⟨q, hq, hgetter⟩ := List.mem_map.1 hq
    refine ⟨q, ⟨hq, hgetter.trans hname⟩, fun q' hq' => ?_⟩
    exact List.inj_on_of_nodup_map hnodup hq'.1 hq (hq'.2.trans (hgetter.trans hname).symm)
  · intro q hq hgetter
    obtain ⟨e, he, hname, htype⟩ := hfrom q hq
    obtain ⟨-, rfl⟩ := (mem_gettersOf_iff_of_own hload hd hroot hm).1 ⟨he, hname.trans hgetter⟩
    rw [← htype, returns_seenThrough_declaredType]
  · intro hgives q hq hgetter
    obtain ⟨e, he, hname, -⟩ := hfrom q hq
    exact hgives ((mem_gettersOf_iff_of_own hload hd hroot hm).1 ⟨he, hname.trans hgetter⟩).1

/-- A class that writes one of the abstract methods of its interface. -/
def squareDocument : Document where
  types := .ofList [
    ("a.Shape",
      { kind := .interfaceKind
        methods := [{ name := "sides", returns := "int" }, { name := "area", returns := "int" }] }),
    ("a.Square",
      { modifiers := [.isAbstract], supertypes := ["a.Shape"]
        methods := [{ name := "sides", returns := "int" },
          { name := "label", returns := "java.lang.String", modifiers := [.isAbstract] }] })]

/-- It has a property for its own abstract method and none for the written one. -/
theorem properties_of_square :
    ∃ c p, squareDocument.catalog = .ok c ∧ c.plan {} "a.Square" = .ok p ∧
      p.properties.map (fun q => (q.getter, q.type)) =
        [("label", "java.lang.String"), ("area", "int")] ∧
      (∃! q, q ∈ p.properties ∧ q.getter = "label") ∧
      ∀ q ∈ p.properties, q.getter ≠ "sides" := by
  obtain ⟨c, hc, d, hd, hmembers, ⟨label, hlabel, hgives⟩, sides, hsides, hnot⟩ :=
    exists_of_eval squareDocument.catalog (fun c => ∃ d ∈ c.find? "a.Square",
      ((c.membersOf d.declaredType).filter fun e => e.isAbstract = true ∧ e.params = [] ∧
          .isStatic ∉ e.modifiers ∧ e.returns ≠ .plain "void" ∧
          e.declaredIn ≠ JavaType.objectName).map (fun e => (e.name, e.returns.text)) =
        [("label", "java.lang.String"), ("area", "int")] ∧
      (∃ m ∈ d.methods.find? (fun m : Method => m.name = "label" ∧ m.params = []),
        m.GivesProperty d.kind) ∧
      ∃ m ∈ d.methods.find? (fun m : Method => m.name = "sides" ∧ m.params = []),
        ¬m.GivesProperty d.kind)
    (by decide +kernel)
  obtain ⟨p, hp, hproperties, -, hown⟩ := properties_of_plan hc check_default hd
  have hown := hown (by decide)
  exact ⟨c, p, hc, hp, hproperties.trans hmembers, ((hown "label" label hlabel).1 hgives).1,
    (hown "sides" sides hsides).2 hnot⟩

end Catalog

end BuilderPlanner
