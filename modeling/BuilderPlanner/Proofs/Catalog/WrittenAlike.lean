import BuilderPlanner.Proofs.Catalog.GenericCall

/-!
# Types that are written alike

The text of a type does not tell a variable from a class of the same name. This is all that it does
not tell, of the types that loading yields.

* `JavaType.unbind` — a type with the names of classes in place of all variables;
* `Loadable` — the types that loading yields;
* `Loadable.text_eq_iff` — two of them are written alike if and only if they are the same up to
  this;
* `JavaType.unbind_eq_iff` — the types that are a declaration up to this;
* `makes_iff_unbind_eq` — a method makes values of a declaration if and only if its result is the
  declaration up to this.
-/

namespace BuilderPlanner

namespace JavaType

/-! ### Variables as classes -/

/-- A type with the name of a class in place of every variable. -/
def unbind (t : JavaType) : JavaType := t.substitute fun x => some (.plain x)

theorem unbind_named (n : String) (ts : List JavaType) :
    (named n ts).unbind = .named n (ts.map unbind) := by
  rw [unbind, substitute, substituteAll_eq_map]
  rfl

theorem text_unbind (t : JavaType) : t.unbind.text = t.text := by
  induction t with
  | named n ts ih =>
    rw [unbind_named]
    cases ts with
    | nil => rfl
    | cons t ts =>
      rw [List.map_cons, text, text, ih t List.mem_cons_self,
        textRest_map fun u hu => ih u (List.mem_cons_of_mem t hu)]
  | var x => rfl
  | array t ih =>
    show t.unbind.text ++ "[]" = t.text ++ "[]"
    rw [ih]
  | wildcard => rfl
  | bounded b t ih =>
    show "? " ++ b.keyword ++ " " ++ t.unbind.text = "? " ++ b.keyword ++ " " ++ t.text
    rw [ih]

/-- It does not matter which names were in scope. -/
theorem unbind_bind (scope : List String) (t : JavaType) : (t.bind scope).unbind = t.unbind := by
  induction t with
  | named n ts ih =>
    cases ts with
    | nil =>
      rw [bind]
      split <;> rfl
    | cons t ts =>
      rw [bind, bindAll_eq_map, ← List.map_cons, unbind_named, unbind_named, List.map_map]
      congr 1
      exact List.map_congr_left ih
  | var x => rfl
  | array t ih => exact congrArg array ih
  | wildcard => rfl
  | bounded b t ih => exact congrArg (bounded b) ih

/-- What is read without a scope has no variables. -/
theorem Readable.unbind_eq {t : JavaType} (h : Readable t) : t.unbind = t := by
  induction h with
  | @named q n ts _ _ _ ih =>
    rw [unbind_named, List.map_congr_left ih, List.map_id']
  | array _ _ ih => exact congrArg JavaType.array ih
  | wildcard => rfl
  | bounded b _ ih => exact congrArg (JavaType.bounded b) ih

/-! ### Uses of a declaration -/

theorem unbind_eq_plain_iff {t : JavaType} {n : String} :
    t.unbind = .plain n ↔ t = .var n ∨ t = .plain n := by
  cases t with
  | named m ts => simp [unbind_named]
  | var x => simp [unbind, substitute]
  | array t => simp [unbind, substitute]
  | wildcard => simp [unbind, substitute]
  | bounded b t => simp [unbind, substitute]

theorem map_unbind_eq_iff {ts : List JavaType} {ps : List String} :
    ts.map unbind = ps.map .plain ↔
      List.Forall₂ (fun t p => t = .var p ∨ t = .plain p) ts ps := by
  rw [← List.forall₂_eq_eq_eq, List.forall₂_map_left_iff, List.forall₂_map_right_iff]
  simp only [unbind_eq_plain_iff]

/-- A type is a use of a declaration with names as arguments, up to which of these names are
variables, or a variable that is called like a declaration without parameters. -/
theorem unbind_eq_iff {t : JavaType} {n : String} {ps : List String} :
    t.unbind = .named n (ps.map .plain) ↔
      (ps = [] ∧ t = .var n) ∨
      ∃ args, t = .named n args ∧
        List.Forall₂ (fun a p => a = .var p ∨ a = .plain p) args ps := by
  cases t with
  | named m ts => simp [unbind_named, map_unbind_eq_iff]
  | var x =>
    rw [show (var x).unbind = .named x [] from rfl, named.injEq, eq_comm (a := []),
      List.map_eq_nil_iff]
    simp [and_comm]
  | array t => simp [unbind, substitute]
  | wildcard => simp [unbind, substitute]
  | bounded b t => simp [unbind, substitute]

theorem unbind_declaredType (d : Declaration) :
    d.declaredType.unbind = .named d.qualifiedName (d.typeParams.map .plain) := by
  rw [Declaration.declaredType, unbind_named, List.map_map]
  rfl

end JavaType

/-! ### Types that loading yields -/

/-- The types that loading yields: those that are read in a scope, and the uses of declarations
inside them. -/
inductive Loadable : JavaType → Prop
  | read {scope : List String} {text : String} {t : JavaType}
      (h : JavaType.ofTextIn scope text = .ok t) : Loadable t
  | declared {doc : Document} {c : Catalog} (hload : doc.catalog = .ok c) {n : String}
      {d : Declaration} (hd : c.find? n = some d) : Loadable d.declaredType

/-- Up to variables these types can be read without a scope. -/
theorem Loadable.readable_unbind {t : JavaType} (h : Loadable t) :
    JavaType.Readable t.unbind := by
  cases h with
  | read h =>
    obtain ⟨u, hu, rfl⟩ := map_eq_ok_iff.1 h
    have hreadable : JavaType.Readable u := JavaType.readable_iff.2 ⟨_, hu⟩
    rwa [JavaType.unbind_bind, hreadable.unbind_eq]
  | declared hload hd =>
    rw [JavaType.unbind_declaredType]
    exact Document.readable_of_catalog hload hd

theorem Loadable.text_eq_iff {s t : JavaType} (hs : Loadable s) (ht : Loadable t) :
    s.text = t.text ↔ s.unbind = t.unbind := by
  constructor
  · intro h
    refine hs.readable_unbind.eq_of_text ht.readable_unbind ?_
    rw [JavaType.text_unbind, JavaType.text_unbind, h]
  · intro h
    rw [← s.text_unbind, h, t.text_unbind]

theorem Loadable.of_mem_typesInScope {doc : Document} {c : Catalog} (hload : doc.catalog = .ok c)
    {n : String} {d : Declaration} (hd : c.find? n = some d) {e : List String × JavaType}
    (he : e ∈ d.typesInScope) : Loadable e.2 := by
  obtain ⟨text, htext⟩ := Document.read_of_catalog hload hd e he
  exact .read (mapError_eq_ok_iff.1 htext)

/-! ### Methods that make builders -/

/-- **Types are written alike if they are the same up to variables.** This holds of all types that
loading yields. So a method of a declared type is taken for one that makes values of a declaration
if and only if it is static, not private and without parameters, has the right name, and its result
is the use of the declaration inside it up to variables. Such a result has one argument for each
parameter, with the name of this, or is a variable that is called like a declaration without
parameters. -/
theorem makes_iff_unbind_eq :
    (∀ s t, Loadable s → Loadable t → (s.text = t.text ↔ s.unbind = t.unbind)) ∧
      ∀ doc c, Document.catalog doc = .ok c → ∀ n d, c.find? n = some d →
        ∀ k outer, c.find? k = some outer → ∀ m ∈ outer.methods, ∀ w,
          (m.makes w d.declaredType.text = true ↔
            m.IsOpenStatic w ∧ m.returns.unbind = d.declaredType.unbind) ∧
          (m.returns.unbind = d.declaredType.unbind ↔
            (d.typeParams = [] ∧ m.returns = .var d.qualifiedName) ∨
            ∃ args, m.returns = .named d.qualifiedName args ∧
              List.Forall₂ (fun a p => a = .var p ∨ a = .plain p) args d.typeParams) := by
  refine ⟨fun s t hs ht => hs.text_eq_iff ht, ?_⟩
  intro doc c hload n d hd k outer houter m hm w
  refine ⟨?_, ?_⟩
  · have hscope : (outer.typeParams ++ m.typeParams, m.returns) ∈ outer.typesInScope :=
      Declaration.returns_mem_typesInScope hm
    have hreturns : Loadable m.returns := .of_mem_typesInScope hload houter hscope
    rw [Method.makes_iff, ← hreturns.text_eq_iff (.declared hload hd)]
    constructor
    · intro h
      exact ⟨h.isOpenStatic, h.returns⟩
    · intro h
      exact ⟨h.1.name, h.1.isStatic, h.1.visibility, h.1.params, h.2⟩
  · rw [JavaType.unbind_declaredType, JavaType.unbind_eq_iff]

/-- A crate without type parameters, around a builder that has one. -/
def crateWithBuilder : Document where
  types := .ofList [
    ("a.Crate", {
      methods := [{ name := "builder", returns := "a.Crate.Builder<E>"
                    modifiers := [.isStatic] }] }),
    ("a.Crate.Builder", { typeParams := ["E"] })]

/-- Two types that differ in which of their names are variables, and a method with a class for an
argument where the builder has a variable. -/
theorem makes_iff_unbind_eq_crate :
    (∃ s t, JavaType.ofTextIn ["K"] "Map<K, V []>" = .ok s ∧
      JavaType.ofTextIn ["V"] "Map<K,V[]>" = .ok t ∧ s ≠ t ∧ s.text = t.text) ∧
    ∃ c, crateWithBuilder.catalog = .ok c ∧ ∃ d ∈ c.find? "a.Crate.Builder",
      ∃ outer ∈ c.find? "a.Crate", ∃ m ∈ outer.methods,
        m.returns ≠ d.declaredType ∧ m.makes "builder" d.declaredType.text = true := by
  obtain ⟨halike, hmakes⟩ := makes_iff_unbind_eq
  constructor
  · have hs : JavaType.ofTextIn ["K"] "Map<K, V []>" =
        .ok (.named "Map" [.var "K", .array (.plain "V")]) := by decide +kernel
    have ht : JavaType.ofTextIn ["V"] "Map<K,V[]>" =
        .ok (.named "Map" [.plain "K", .array (.var "V")]) := by decide +kernel
    exact ⟨_, _, hs, ht, by decide, (halike _ _ (.read hs) (.read ht)).2 (by decide)⟩
  · obtain ⟨c, hc, d, hd, outer, houter, m, hm, hopen, hne, halike⟩ :=
      exists_of_eval crateWithBuilder.catalog
        (fun c => ∃ d ∈ c.find? "a.Crate.Builder", ∃ outer ∈ c.find? "a.Crate",
          ∃ m ∈ outer.methods,
            (m.name = "builder" ∧ .isStatic ∈ m.modifiers ∧ m.visibility ≠ .owner ∧
              m.params = []) ∧
            m.returns ≠ d.declaredType ∧ m.returns.unbind = d.declaredType.unbind)
        (by decide +kernel)
    obtain ⟨hname, hstatic, hvisibility, hparams⟩ := hopen
    refine ⟨c, hc, d, hd, outer, houter, m, hm, hne, ?_⟩
    exact (hmakes _ c hc _ d hd _ outer houter m hm "builder").1.2
      ⟨⟨hname, hstatic, hvisibility, hparams⟩, halike⟩

end BuilderPlanner
