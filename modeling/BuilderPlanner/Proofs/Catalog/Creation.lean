import BuilderPlanner.Catalog.Creation
import BuilderPlanner.Proofs.Catalog.Reordering

/-!
# New builders come from where they are looked for

The way to make a builder is chosen in view of the type around it and its constructors; the
expression for a new builder is made later, from the name of the builder alone. Both mean the same
method of the same type.

* `Method.IsFactory`, `Catalog.Factory`, `Declaration.HasOpenConstructor` — what a choice looks for;
* `callText` — a call of a static method;
* `Catalog.Chosen` — what a choice says of the declarations, and the expression that goes with it;
* `Catalog.chosen_creation?` — choices say so, whatever the order of the declared methods and
  constructors.
-/

namespace BuilderPlanner

/-! ### What is looked for -/

/-- A method that makes values of a declared type, for callers in its package. -/
structure Method.IsFactory (m : Method) (name : String) (d : Declaration) : Prop where
  name : m.name = name
  isStatic : .isStatic ∈ m.modifiers
  visibility : m.visibility ≠ .owner
  params : m.params = []
  returns : m.returns.text = d.declaredType.text

/-- A constructor without parameters, for callers in its package. -/
def Declaration.HasOpenConstructor (d : Declaration) : Prop :=
  ∃ k ∈ d.constructors, k.params = [] ∧ k.visibility ≠ .owner

theorem Method.makes_iff {m : Method} {name : String} {d : Declaration} :
    m.makes name d.declaredType.text = true ↔ m.IsFactory name d := by
  simp only [Method.makes, Method.isStatic, Bool.and_eq_true, beq_iff_eq, bne_iff_ne,
    List.contains_iff_mem, List.isEmpty_iff]
  constructor
  · intro h
    obtain ⟨⟨⟨⟨hname, hstatic⟩, hvisibility⟩, hparams⟩, hreturns⟩ := h
    exact ⟨hname, hstatic, hvisibility, hparams, hreturns⟩
  · intro h
    exact ⟨⟨⟨⟨h.name, h.isStatic⟩, h.visibility⟩, h.params⟩, h.returns⟩

theorem any_makes_iff {outer d : Declaration} {method : String} :
    outer.methods.any (Method.makes method d.declaredType.text) = true ↔
      ∃ m ∈ outer.methods, m.IsFactory method d := by
  simp only [List.any_eq_true, Method.makes_iff]

theorem Declaration.hasOpenConstructor_iff {d : Declaration} :
    d.hasOpenConstructor = true ↔ d.HasOpenConstructor := by
  simp only [Declaration.hasOpenConstructor, List.any_eq_true, Bool.and_eq_true,
    List.isEmpty_iff, bne_iff_ne, Declaration.HasOpenConstructor]

/-- A call of a static method of a type, with type arguments. -/
def callText (outer method : String) (args : List JavaType) : String :=
  if args = [] then outer ++ "." ++ method ++ "()"
  else outer ++ ".<" ++ ", ".intercalate (args.map JavaType.text) ++ ">" ++ method ++ "()"

namespace Catalog

/-- The type around a declaration makes values of it with a method. -/
structure Factory (c : Catalog) (d : Declaration) (method : String) (outer : Declaration) :
    Prop where
  enclosing : c.enclosing? d.qualifiedName = some outer
  declared : c.find? outer.qualifiedName = some outer
  factory : ∃ m ∈ outer.methods, m.IsFactory method d

/-- What a choice says of the declarations, and the expression for a new builder that goes with it.
The builder is used with the given type arguments. -/
inductive Chosen (c : Catalog) (d : Declaration) (args : List JavaType) : Option Creation → Prop
  | builderMethod {outer : Declaration} (factory : c.Factory d "builder" outer)
    (text : c.newBuilder .builderMethod (.named d.qualifiedName args) =
      callText outer.qualifiedName "builder" args) : c.Chosen d args (some .builderMethod)
  | newBuilderMethod {outer : Declaration} (factory : c.Factory d "newBuilder" outer)
    (no_builder : ∀ outer, ¬c.Factory d "builder" outer)
    (text : c.newBuilder .newBuilderMethod (.named d.qualifiedName args) =
      callText outer.qualifiedName "newBuilder" args) : c.Chosen d args (some .newBuilderMethod)
  | constructor (no_builder : ∀ outer, ¬c.Factory d "builder" outer)
    (no_newBuilder : ∀ outer, ¬c.Factory d "newBuilder" outer) (hopen : d.HasOpenConstructor)
    (text : c.newBuilder .constructor (.named d.qualifiedName args) =
      "new " ++ (JavaType.named d.qualifiedName args).text ++ "()") :
    c.Chosen d args (some .constructor)
  | nothing (no_builder : ∀ outer, ¬c.Factory d "builder" outer)
    (no_newBuilder : ∀ outer, ¬c.Factory d "newBuilder" outer) (hopen : ¬d.HasOpenConstructor) :
    c.Chosen d args none

/-! ### The type around a builder -/

variable {doc : Document} {c : Catalog} {d outer : Declaration}

/-- The type around another is declared under its own name. -/
theorem find?_of_enclosing? (hload : doc.catalog = .ok c) {n : String}
    (houter : c.enclosing? n = some outer) : c.find? outer.qualifiedName = some outer := by
  rw [enclosing?_eq] at houter
  obtain ⟨name, -, hname⟩ := Option.bind_eq_some_iff.1 houter
  rwa [Document.qualifiedName_of_catalog hload hname]

/-- The expression calls a method of the very type in which the choice looks for methods. -/
theorem staticCall_eq {n : String} (houter : c.enclosing? n = some outer) (args : List JavaType)
    (method : String) :
    c.staticCall (.named n args) method = callText outer.qualifiedName method args := by
  unfold staticCall callText
  simp only [JavaType.name?, JavaType.args, Option.getD_some, houter]
  cases args with
  | nil => rfl
  | cons a rest => rw [if_neg (List.cons_ne_nil a rest)]

/-- A choice is made among the methods of the type around the builder. -/
theorem factory_iff (hload : doc.catalog = .ok c) {method : String} :
    c.Factory d method outer ↔ c.enclosing? d.qualifiedName = some outer ∧
      outer.methods.any (Method.makes method d.declaredType.text) = true := by
  rw [any_makes_iff]
  constructor
  · intro h
    exact ⟨h.enclosing, h.factory⟩
  · intro h
    exact ⟨h.1, find?_of_enclosing? hload h.1, h.2⟩

/-! ### Choices -/

theorem creation?_eq {n : String} (hd : c.find? n = some d) :
    c.creation? n = (c.creationMethod? n d).or
      (if d.hasOpenConstructor then some .constructor else none) := by
  unfold creation?
  simp only [hd, Option.bind_eq_bind, Option.bind_some]
  cases c.creationMethod? n d with
  | none => rfl
  | some way => rfl

theorem chosen_of_no_factory {args : List JavaType}
    (hbuilder : ∀ outer, ¬c.Factory d "builder" outer)
    (hnewBuilder : ∀ outer, ¬c.Factory d "newBuilder" outer) :
    c.Chosen d args (if d.hasOpenConstructor then some .constructor else none) := by
  split
  · rename_i hopen
    exact .constructor hbuilder hnewBuilder (Declaration.hasOpenConstructor_iff.1 hopen) rfl
  · rename_i hopen
    exact .nothing hbuilder hnewBuilder fun h => hopen (Declaration.hasOpenConstructor_iff.2 h)

theorem chosen_creation?_of_find? (hload : doc.catalog = .ok c)
    (hd : c.find? d.qualifiedName = some d) (args : List JavaType) :
    c.Chosen d args (c.creation? d.qualifiedName) := by
  rw [creation?_eq hd]
  cases houter : c.enclosing? d.qualifiedName with
  | none =>
    have hno : ∀ method outer, ¬c.Factory d method outer := by
      intro method outer h
      rw [h.enclosing] at houter
      cases houter
    simp only [creationMethod?, houter, Option.bind_eq_bind, Option.bind_none, Option.none_or]
    exact chosen_of_no_factory (hno "builder") (hno "newBuilder")
  | some outer =>
    have hfactory : ∀ method,
        outer.methods.any (Method.makes method d.declaredType.text) = true →
          c.Factory d method outer :=
      fun method h => (factory_iff hload).2 ⟨houter, h⟩
    have hno : ∀ method,
        ¬outer.methods.any (Method.makes method d.declaredType.text) = true →
          ∀ outer', ¬c.Factory d method outer' := by
      intro method hnot outer' h
      have heq := h.enclosing
      rw [houter] at heq
      cases heq
      exact hnot ((factory_iff hload).1 h).2
    simp only [creationMethod?, houter, Option.bind_eq_bind, Option.bind_some]
    split
    · rename_i hbuilder
      exact .builderMethod (hfactory "builder" hbuilder) (staticCall_eq houter args "builder")
    · rename_i hbuilder
      split
      · rename_i hnewBuilder
        exact .newBuilderMethod (hfactory "newBuilder" hnewBuilder) (hno "builder" hbuilder)
          (staticCall_eq houter args "newBuilder")
      · rename_i hnewBuilder
        exact chosen_of_no_factory (hno "builder" hbuilder) (hno "newBuilder" hnewBuilder)

end Catalog

/-! ### The order of methods and constructors -/

theorem Declaration.Reordered.any_makes {d d' : Declaration} (h : d.Reordered d')
    (name returns : String) :
    d.methods.any (Method.makes name returns) = d'.methods.any (Method.makes name returns) := by
  cases h with
  | intro hmethods _ => exact hmethods.any_eq

theorem Declaration.Reordered.hasOpenConstructor {d d' : Declaration} (h : d.Reordered d') :
    d.hasOpenConstructor = d'.hasOpenConstructor := by
  cases h with
  | intro _ hconstructors => exact hconstructors.any_eq

namespace Catalog

variable {c c' : Catalog}

theorem Reordered.enclosing? (h : c.Reordered c') (n : String) :
    Option.Rel Declaration.Reordered (c.enclosing? n) (c'.enclosing? n) := by
  have houter : ((c.find? n).bind fun d => d.enclosing.or (outerName? n)) =
      (c'.find? n).bind fun d => d.enclosing.or (outerName? n) := by
    refine bind_eq_of_rel (fun d d' hd => ?_) (h.find? n)
    cases hd
    rfl
  rw [enclosing?_eq, enclosing?_eq, houter]
  cases (c'.find? n).bind fun d => d.enclosing.or (outerName? n) with
  | none => exact .none
  | some outer => exact h.find? outer

theorem Reordered.creationMethod? (h : c.Reordered c') (n : String) {d d' : Declaration}
    (hd : d.Reordered d') : c.creationMethod? n d = c'.creationMethod? n d' := by
  have hreturns : d.declaredType = d'.declaredType := by
    cases hd
    rfl
  unfold Catalog.creationMethod?
  rw [hreturns]
  refine bind_eq_of_rel (fun outer outer' houter => ?_) (h.enclosing? n)
  simp only [houter.any_makes]

theorem Reordered.creation? (h : c.Reordered c') (n : String) : c.creation? n = c'.creation? n := by
  refine bind_eq_of_rel (fun d d' hd => ?_) (h.find? n)
  rw [h.creationMethod? n hd, hd.hasOpenConstructor]

/-- **A new builder comes from where it was looked for.** The expression for a new builder calls the
method, or the constructor, for which the way to make it was chosen, and no better one is declared.
The same way is chosen if methods and constructors are described in another order. -/
theorem chosen_creation? {doc : Document} (hload : doc.catalog = .ok c) {q : String}
    {d : Declaration} (hd : c.find? q = some d) :
    d.qualifiedName = q ∧ (∀ args, c.Chosen d args (c.creation? q)) ∧
      ∀ doc', doc.Reordered doc' →
        ∃ c', doc'.catalog = .ok c' ∧ c'.creation? q = c.creation? q := by
  have hq := Document.qualifiedName_of_catalog hload hd
  refine ⟨hq, fun args => ?_, fun doc' hdoc => ?_⟩
  · subst hq
    exact chosen_creation?_of_find? hload hd args
  · obtain ⟨c', hc', hreordered⟩ := Document.reordered_catalog hdoc hload
    exact ⟨c', hc', (hreordered.creation? q).symm⟩

/-- A pair whose builder stands beside it and is made by a method of the pair. -/
def pairDocument : Document where
  types := .ofList [
    ("a.Pair", {
      typeParams := ["K", "V"]
      methods := [
        { name := "newBuilder", returns := "a.Builder<K, V>", modifiers := [.isStatic],
          typeParams := ["K", "V"] },
        { name := "builder", returns := "a.Builder<V, K>", modifiers := [.isStatic],
          typeParams := ["K", "V"] }] }),
    ("a.Builder", { typeParams := ["K", "V"], enclosing := some "a.Pair", constructors := [{}] })]

/-- The method `builder` returns a builder of other pairs and is not taken. -/
theorem newBuilder_of_pairDocument :
    ∃ c d, pairDocument.catalog = .ok c ∧ c.find? "a.Builder" = some d ∧
      c.creation? "a.Builder" = some .newBuilderMethod ∧
      (∀ args, c.Chosen d args (some .newBuilderMethod)) ∧
      c.newBuilder .newBuilderMethod (.named "a.Builder" [.plain "int[]", .plain "a.Pair"]) =
        "a.Pair.<int[], a.Pair>newBuilder()" := by
  obtain ⟨c, hc, d, hd, hway, htext⟩ :=
    exists_of_eval pairDocument.catalog (fun c =>
      ∃ d ∈ c.find? "a.Builder", c.creation? "a.Builder" = some .newBuilderMethod ∧
        c.newBuilder .newBuilderMethod (.named "a.Builder" [.plain "int[]", .plain "a.Pair"]) =
          "a.Pair.<int[], a.Pair>newBuilder()")
      (by decide +kernel)
  obtain ⟨-, hchosen, -⟩ := chosen_creation? hc hd
  rw [hway] at hchosen
  exact ⟨c, d, hc, hd, hway, hchosen, htext⟩

end Catalog

end BuilderPlanner
