import BuilderPlanner.Proofs.Catalog.Creation
import BuilderPlanner.Proofs.Catalog.Scoped
import BuilderPlanner.Proofs.Declaration.Bindings
import BuilderPlanner.Proofs.Declaration.Readable
import BuilderPlanner.Proofs.Name.Alternative
import Mathlib.Data.Finset.Card
import Mathlib.Data.Set.Finite.Basic

/-!
# What generic calls give

A method is chosen to make builders because its result is written like the builder. The call that is
made of it passes the type arguments of the builder, and these go to the type parameters of the
method in their order. Both views agree where the method has the parameters of the builder.

* `Method.IsFactory.returns_eq` — the result of a method that is chosen, up to which of its
  arguments are variables;
* `Method.Gives`, `Method.Passes` — what a call with type arguments gives, and methods that pass on
  their type parameters;
* `exists_gives_iff` — some method gives every use of a declaration if and only if one passes on its
  type parameters;
* `Catalog.gives_iff_of_creation?` — a chosen method gives every use of the builder if and only if
  it has the parameters of the builder.
-/

namespace BuilderPlanner

/-! ### The result of a method that is chosen -/

variable {doc : Document} {c : Catalog} {d outer : Declaration} {m : Method} {w q : String}

/-- The types of a declaration were read as types without variables first. -/
theorem Document.exists_bind_of_catalog (hload : doc.catalog = .ok c) {n : String}
    (hd : c.find? n = some d) {scope : List String} {t : JavaType}
    (ht : (scope, t) ∈ d.typesInScope) : ∃ u, JavaType.Readable u ∧ t = u.bind scope := by
  obtain ⟨text, htext⟩ := Document.read_of_catalog hload hd _ ht
  obtain ⟨u, hu, heq⟩ := map_eq_ok_iff.1 (mapError_eq_ok_iff.1 htext)
  exact ⟨u, JavaType.readable_iff.2 ⟨text, hu⟩, heq.symm⟩

/-- The result of a method that is chosen for a generic declaration is a use of this declaration
with the names of its parameters as arguments. Which of these are variables depends on the method
and the type around it. -/
theorem Method.IsFactory.returns_eq (hload : doc.catalog = .ok c)
    (hd : c.find? d.qualifiedName = some d) (hgeneric : d.typeParams ≠ [])
    (houter : c.find? outer.qualifiedName = some outer) (hm : m ∈ outer.methods)
    (h : m.IsFactory w d) :
    m.returns = .named d.qualifiedName
      (d.typeParams.map fun p => (JavaType.plain p).bind (outer.typeParams ++ m.typeParams)) := by
  have hreadable := Document.readable_of_catalog hload hd
  have hscope := Declaration.returns_mem_typesInScope hm
  obtain ⟨u, hu, hreturns⟩ := Document.exists_bind_of_catalog hload houter hscope
  have htext : u.text = (JavaType.named d.qualifiedName (d.typeParams.map .plain)).text := by
    rw [← d.text_declaredType, ← h.returns, hreturns, JavaType.text_bind]
  rw [hreturns, hu.eq_of_text hreadable htext]
  cases hps : d.typeParams with
  | nil => exact absurd hps hgeneric
  | cons p ps =>
    rw [List.map_cons, JavaType.bind, JavaType.bindAll_eq_map, List.map_map]
    rfl

/-! ### Calls with type arguments -/

/-- The type of a call with type arguments. They go to the type parameters of the method, in
order. -/
def Method.callType (m : Method) (args : List JavaType) : JavaType :=
  m.returns.substitute (Bindings.lookup (m.typeParams.zip args))

/-- A static method without parameters that is not private. -/
structure Method.IsOpenStatic (m : Method) (name : String) : Prop where
  name : m.name = name
  isStatic : .isStatic ∈ m.modifiers
  visibility : m.visibility ≠ .owner
  params : m.params = []

/-- A call of the method with as many type arguments as it has parameters is a use of a declaration
with these arguments. -/
structure Method.Gives (m : Method) (name declaration : String) (args : List JavaType) : Prop
    extends m.IsOpenStatic name where
  arity : m.typeParams.length = args.length
  result : m.callType args = .named declaration args

/-- The result of a method is a use of a declaration whose arguments are the type parameters of the
method, in order. -/
structure Method.Passes (m : Method) (name declaration : String) : Prop
    extends m.IsOpenStatic name where
  nodup : m.typeParams.Nodup
  result : m.returns = .named declaration (m.typeParams.map .var)

theorem Method.IsFactory.isOpenStatic (h : m.IsFactory w d) : m.IsOpenStatic w where
  name := h.name
  isStatic := h.isStatic
  visibility := h.visibility
  params := h.params

theorem Method.Passes.gives (h : m.Passes w q) {args : List JavaType}
    (hlength : m.typeParams.length = args.length) : m.Gives w q args where
  toIsOpenStatic := h.toIsOpenStatic
  arity := hlength
  result := by
    have hkeys : (m.typeParams.zip args).map Prod.fst = m.typeParams :=
      List.map_fst_zip (Nat.le_of_eq hlength)
    rw [callType, h.result, JavaType.substitute, JavaType.substituteAll_eq_map, List.map_map]
    congr 1
    refine List.ext_getElem (by simpa using hlength) fun i _ hi => ?_
    have hparam : i < m.typeParams.length := hlength ▸ hi
    have hmem : (m.typeParams[i], args[i]) ∈ m.typeParams.zip args := by
      rw [← List.getElem_zip (h := by simpa [hlength] using hi)]
      exact List.getElem_mem _
    have hlookup := Bindings.lookup_of_mem (hkeys.symm ▸ h.nodup) hmem
    simp [JavaType.substitute, hlookup]

/-! ### Arguments that tell where they came from -/

/-- There are as many names as wanted that are not among given ones. -/
theorem exists_fresh (taken : List String) (n : ℕ) :
    ∃ fresh : List String, fresh.length = n ∧ fresh.Nodup ∧ ∀ x ∈ fresh, x ∉ taken := by
  have hinfinite : Infinite String :=
    Infinite.of_injective (fun k => alternativeName "" (k + 1)) fun k l h => by
      have hkl := (alternativeName_inj (by omega) (by omega) h).2
      omega
  have htaken : {x | x ∈ taken}ᶜ.Infinite := (List.finite_toSet taken).infinite_compl
  obtain ⟨names, hnames, hcard⟩ := htaken.exists_subset_card_eq n
  refine ⟨names.toList, ?_, names.nodup_toList, fun x hx => ?_⟩
  · rw [Finset.length_toList, hcard]
  · exact hnames (Finset.mem_toList.1 hx)

theorem JavaType.mem_plainNames_of_mem {n x : String} {t : JavaType} {ts : List JavaType}
    (ht : t ∈ ts) (hx : x ∈ t.plainNames) : x ∈ (named n ts).plainNames := by
  cases ts with
  | nil => exact absurd ht List.not_mem_nil
  | cons u us => exact mem_plainNamesAll.2 ⟨t, ht, hx⟩

/-- Where a name of an argument comes out, the type parameter at its place went in. -/
theorem eq_var_of_substitute {ps fresh : List String} (hnodup : fresh.Nodup) {i : ℕ}
    (hi : i < fresh.length) (hi' : i < ps.length) {t : JavaType} (ht : fresh[i] ∉ t.plainNames)
    (h : t.substitute (Bindings.lookup (ps.zip (fresh.map .plain))) = .plain fresh[i]) :
    t = .var ps[i] := by
  cases t with
  | named n ts =>
    rw [JavaType.substitute, JavaType.substituteAll_eq_map, JavaType.named.injEq,
      List.map_eq_nil_iff] at h
    obtain ⟨hn, rfl⟩ := h
    exact absurd (hn ▸ List.mem_singleton_self n) ht
  | var x =>
    rw [JavaType.substitute] at h
    cases hlookup : Bindings.lookup (ps.zip (fresh.map .plain)) x with
    | none => simp [hlookup] at h
    | some u =>
      rw [hlookup, Option.getD_some] at h
      obtain ⟨j, hj, heq⟩ := List.mem_iff_getElem.1 (Bindings.mem_of_lookup hlookup)
      rw [List.getElem_zip, List.getElem_map, h, Prod.mk.injEq, JavaType.named.injEq] at heq
      have hji : j = i := (hnodup.getElem_inj_iff).1 heq.2.1
      subst hji
      rw [heq.1]
  | array t => cases h
  | wildcard => cases h
  | bounded b t => cases h

/-- A method that gives a use with names as arguments that are pairwise different and not its own
passes its type parameters on. -/
theorem Method.Gives.passes {fresh : List String} (hne : fresh ≠ []) (hnodup : fresh.Nodup)
    (hfresh : ∀ x ∈ fresh, x ∉ m.returns.plainNames) (h : m.Gives w q (fresh.map .plain)) :
    m.Passes w q := by
  have hlength : m.typeParams.length = fresh.length := by simpa using h.arity
  have hresult := h.result
  rw [Method.callType] at hresult
  cases hreturns : m.returns with
  | named n ts =>
    rw [hreturns, JavaType.substitute, JavaType.substituteAll_eq_map, JavaType.named.injEq]
      at hresult
    obtain ⟨rfl, hargs⟩ := hresult
    have hts : ts = m.typeParams.map .var := by
      have hcount : ts.length = fresh.length := by simpa using congrArg List.length hargs
      refine List.ext_getElem (by simp [hcount, hlength]) fun i hi _ => ?_
      rw [List.getElem_map]
      refine eq_var_of_substitute hnodup (hcount ▸ hi) (by omega) (fun hmem => ?_) ?_
      · refine hfresh _ (List.getElem_mem (hcount ▸ hi)) ?_
        rw [hreturns]
        exact JavaType.mem_plainNames_of_mem (List.getElem_mem hi) hmem
      · have harg := List.getElem_of_eq hargs (i := i) (by simpa using hi)
        rwa [List.getElem_map, List.getElem_map] at harg
    refine ⟨h.toIsOpenStatic, ?_, by rw [hreturns, hts]⟩
    have hplain : (fresh.map JavaType.plain).Nodup :=
      hnodup.map fun x y hxy => by simpa using hxy
    rw [← hargs, hts, List.map_map] at hplain
    exact hplain.of_map
  | var x =>
    rw [hreturns, JavaType.substitute] at hresult
    cases hlookup : Bindings.lookup (m.typeParams.zip (fresh.map .plain)) x with
    | none => simp [hlookup] at hresult
    | some u =>
      rw [hlookup, Option.getD_some] at hresult
      obtain ⟨f, -, hf⟩ := List.mem_map.1 (List.of_mem_zip (Bindings.mem_of_lookup hlookup)).2
      rw [hresult, JavaType.named.injEq, eq_comm (b := fresh.map JavaType.plain),
        List.map_eq_nil_iff] at hf
      exact absurd hf.2 hne
  | array t => simp [hreturns, JavaType.substitute] at hresult
  | wildcard => simp [hreturns, JavaType.substitute] at hresult
  | bounded b t => simp [hreturns, JavaType.substitute] at hresult

/-- Some method gives every use with `n` arguments if and only if one passes on `n` type parameters.
One use is enough to tell, with names as arguments that occur in no result. -/
theorem exists_gives_iff {n : ℕ} (hn : n ≠ 0) (methods : List Method) :
    (∀ args : List JavaType, args.length = n → ∃ m ∈ methods, m.Gives w q args) ↔
      ∃ m ∈ methods, m.typeParams.length = n ∧ m.Passes w q := by
  constructor
  · intro h
    obtain ⟨fresh, hlength, hnodup, hfresh⟩ :=
      exists_fresh (methods.flatMap fun m => m.returns.plainNames) n
    obtain ⟨m, hm, hgives⟩ := h (fresh.map .plain) (by simpa using hlength)
    have hne : fresh ≠ [] := by
      intro hnil
      exact hn (by simpa [hnil] using hlength.symm)
    have hpasses := hgives.passes hne hnodup fun x hx hmem =>
      hfresh x hx (List.mem_flatMap.2 ⟨m, hm, hmem⟩)
    exact ⟨m, hm, by simpa [hlength] using hgives.arity, hpasses⟩
  · intro h args hargs
    obtain ⟨m, hm, hlength, hpasses⟩ := h
    exact ⟨m, hm, hpasses.gives (hlength.trans hargs.symm)⟩

/-- A method that is chosen gives every use of a generic declaration if and only if it has the type
parameters of the declaration. -/
theorem Method.IsFactory.passes_iff (hload : doc.catalog = .ok c)
    (hd : c.find? d.qualifiedName = some d) (hgeneric : d.typeParams ≠ [])
    (houter : c.find? outer.qualifiedName = some outer) (hm : m ∈ outer.methods)
    (h : m.IsFactory w d) :
    m.Passes w d.qualifiedName ↔ m.typeParams = d.typeParams ∧ d.typeParams.Nodup := by
  have hreturns := h.returns_eq hload hd hgeneric houter hm
  constructor
  · intro hpasses
    have hargs := hpasses.result
    rw [hreturns, JavaType.named.injEq] at hargs
    have htext := congrArg (List.map JavaType.text) hargs.2
    rw [List.map_map, List.map_map] at htext
    have hparams : d.typeParams = m.typeParams := by
      simpa [Function.comp_def, JavaType.text_bind, JavaType.text] using htext
    exact ⟨hparams.symm, hparams ▸ hpasses.nodup⟩
  · intro hparams
    obtain ⟨heq, hnodup⟩ := hparams
    refine ⟨h.isOpenStatic, heq ▸ hnodup, ?_⟩
    rw [hreturns, heq]
    congr 1
    refine List.map_congr_left fun p hp => ?_
    rw [JavaType.bind, if_pos (by simp [hp])]

/-! ### Calls of chosen methods -/

/-- The method that is called to make a builder. -/
def Creation.method? : Creation → Option String
  | constructor => none
  | builderMethod => some "builder"
  | newBuilderMethod => some "newBuilder"

namespace Catalog

/-- A chosen method is declared by the type around the builder, and that type is called. -/
theorem exists_factory_of_creation? (hload : doc.catalog = .ok c)
    (hd : c.find? d.qualifiedName = some d) {way : Creation}
    (hway : c.creation? d.qualifiedName = some way) (hw : way.method? = some w) :
    ∃ outer, c.Factory d w outer ∧ ∀ args, c.newBuilder way (.named d.qualifiedName args) =
      callText outer.qualifiedName w args := by
  have hchosen := chosen_creation?_of_find? hload hd []
  rw [hway] at hchosen
  cases hchosen with
  | builderMethod factory _ =>
    cases hw
    exact ⟨_, factory, fun args => staticCall_eq factory.enclosing args "builder"⟩
  | newBuilderMethod factory _ _ =>
    cases hw
    exact ⟨_, factory, fun args => staticCall_eq factory.enclosing args "newBuilder"⟩
  | constructor _ _ _ _ => cases hw

/-- **Generic calls give what they pass on.** Let a method be chosen to make a generic builder. The
type around the builder is called with the type arguments of the use. It has a method that gives
every use of the builder if and only if one of its methods passes on its own type parameters. All
methods for which the choice was made return the builder with the names of its parameters, and one
of them gives every use if and only if it has the very parameters of the builder. -/
theorem gives_iff_of_creation? (hload : doc.catalog = .ok c) (hd : c.find? q = some d)
    (hgeneric : d.typeParams ≠ []) {way : Creation} (hway : c.creation? q = some way)
    (hw : way.method? = some w) :
    ∃ outer, c.Factory d w outer ∧
      (∀ args, c.newBuilder way (.named q args) = callText outer.qualifiedName w args) ∧
      ((∀ args : List JavaType, args.length = d.typeParams.length →
          ∃ m ∈ outer.methods, m.Gives w q args) ↔
        ∃ m ∈ outer.methods, m.typeParams.length = d.typeParams.length ∧ m.Passes w q) ∧
      ∀ m ∈ outer.methods, m.IsFactory w d →
        m.returns = .named q (d.typeParams.map fun p =>
          (JavaType.plain p).bind (outer.typeParams ++ m.typeParams)) ∧
        ((∀ args : List JavaType, args.length = d.typeParams.length → m.Gives w q args) ↔
          m.typeParams = d.typeParams ∧ d.typeParams.Nodup) := by
  obtain rfl := Document.qualifiedName_of_catalog hload hd
  have hcount : d.typeParams.length ≠ 0 := fun h => hgeneric (List.length_eq_zero_iff.1 h)
  obtain ⟨outer, hfactory, htext⟩ := exists_factory_of_creation? hload hd hway hw
  refine ⟨outer, hfactory, htext, exists_gives_iff hcount outer.methods, fun m hm h => ⟨?_, ?_⟩⟩
  · exact h.returns_eq hload hd hgeneric hfactory.declared hm
  · have hpasses := h.passes_iff hload hd hgeneric hfactory.declared hm
    have hgives : (∀ args : List JavaType, args.length = d.typeParams.length →
        m.Gives w d.qualifiedName args) ↔
          m.typeParams.length = d.typeParams.length ∧ m.Passes w d.qualifiedName := by
      simpa using exists_gives_iff (w := w) (q := d.qualifiedName) hcount [m]
    rw [hgives, hpasses]
    exact and_iff_right_of_imp fun heq => congrArg List.length heq.1

/-- A pair with a builder. The method that makes builders declares type parameters of its own. -/
def pairOf (typeParams : List String) : Document where
  types := .ofList [
    ("a.Pair", {
      typeParams := ["A", "B"]
      methods := [{ name := "builder", returns := "a.Pair.Builder<A, B>"
                    modifiers := [.isStatic], typeParams }] }),
    ("a.Pair.Builder", { typeParams := ["A", "B"] })]

/-- The method declares the parameters of the builder in their order. -/
theorem pair_in_order :
    ∃ c d outer, (pairOf ["A", "B"]).catalog = .ok c ∧ c.find? "a.Pair.Builder" = some d ∧
      c.Factory d "builder" outer ∧
      ∀ args : List JavaType, args.length = 2 →
        ∃ m ∈ outer.methods, m.Gives "builder" "a.Pair.Builder" args := by
  obtain ⟨c, hc, d, hd, hps, hway, hmethods⟩ := exists_of_eval (pairOf ["A", "B"]).catalog
    (fun c => ∃ d ∈ c.find? "a.Pair.Builder", d.typeParams = ["A", "B"] ∧
      c.creation? "a.Pair.Builder" = some .builderMethod ∧
      ∃ outer ∈ c.enclosing? "a.Pair.Builder", ∀ m ∈ outer.methods, m.typeParams = ["A", "B"])
    (by decide +kernel)
  have hgeneric : d.typeParams ≠ [] := by simp [hps]
  obtain ⟨outer, hfactory, -, -, hall⟩ := gives_iff_of_creation? hc hd hgeneric hway rfl
  refine ⟨c, d, outer, hc, hd, hfactory, fun args hargs => ?_⟩
  obtain ⟨m, hm, h⟩ := hfactory.factory
  obtain ⟨outer', houter', hparams⟩ := hmethods
  have hsame : outer = outer' := by
    have hencl := hfactory.enclosing
    rw [Document.qualifiedName_of_catalog hc hd] at hencl
    exact Option.some.inj (hencl.symm.trans houter')
  refine ⟨m, hm, (hall m hm h).2.2 ⟨?_, ?_⟩ args (by simpa [hps] using hargs)⟩
  · rw [hps, hparams m (hsame ▸ hm)]
  · rw [hps]
    decide

/-- The method declares them in the other order. It is chosen all the same, because its result is
written like the builder, and the call gives a builder of other pairs. -/
theorem pair_swapped :
    ∃ c d outer, (pairOf ["B", "A"]).catalog = .ok c ∧ c.find? "a.Pair.Builder" = some d ∧
      c.creation? "a.Pair.Builder" = some .builderMethod ∧ c.Factory d "builder" outer ∧
      c.newBuilder .builderMethod
          (.named "a.Pair.Builder" [.plain "java.lang.String", .plain "java.lang.Integer"]) =
        "a.Pair.<java.lang.String, java.lang.Integer>builder()" ∧
      ¬∃ m ∈ outer.methods, m.Gives "builder" "a.Pair.Builder"
        [.plain "java.lang.String", .plain "java.lang.Integer"] := by
  obtain ⟨c, hc, d, hd, hway, htext, outer, houter, hany, htypes⟩ :=
    exists_of_eval (pairOf ["B", "A"]).catalog
      (fun c => ∃ d ∈ c.find? "a.Pair.Builder",
        c.creation? "a.Pair.Builder" = some .builderMethod ∧
        c.newBuilder .builderMethod
            (.named "a.Pair.Builder" [.plain "java.lang.String", .plain "java.lang.Integer"]) =
          "a.Pair.<java.lang.String, java.lang.Integer>builder()" ∧
        ∃ outer ∈ c.enclosing? "a.Pair.Builder",
          outer.methods.any (Method.makes "builder" d.declaredType.text) = true ∧
          ∀ m ∈ outer.methods,
            m.callType [.plain "java.lang.String", .plain "java.lang.Integer"] =
              .named "a.Pair.Builder" [.plain "java.lang.Integer", .plain "java.lang.String"])
      (by decide +kernel)
  have hname := Document.qualifiedName_of_catalog hc hd
  refine ⟨c, d, outer, hc, hd, hway, (factory_iff hc).2 ⟨hname ▸ houter, hany⟩, htext, ?_⟩
  intro hgives
  obtain ⟨m, hm, h⟩ := hgives
  have hresult := h.result
  rw [htypes m hm] at hresult
  exact absurd hresult (by decide)

end Catalog

end BuilderPlanner
