import BuilderPlanner.Proofs.Declaration.Bindings
import BuilderPlanner.Proofs.Surface.Visits
import Mathlib.Data.List.Lex

/-!
# Routes through a hierarchy

A route from a type to one of its supertypes gives at each step the place of the next type in the
list of supertypes. Routes are ordered as words: a route comes before those that go on from its end,
and where two routes part, the one to the earlier place comes first.

* `Catalog.follow`, `Catalog.nameAt?` — the type at the end of a route, and its name;
* `Catalog.Acyclic` — no type is a proper supertype of a type of its own name;
* `Catalog.Acyclic.nameAt?_congr` — without cycles the names along a route do not depend on type
  arguments;
* `Catalog.acyclic_of_rank` — supertypes of a lower rank make no cycle.
-/

namespace BuilderPlanner

/-! ### The order of routes -/

theorem not_lt_of_isPrefix {p q : List ℕ} (h : p <+: q) : ¬q < p := by
  obtain ⟨s, rfl⟩ := h
  intro hlt
  induction p with
  | nil => exact List.not_lt_nil _ hlt
  | cons a p ih =>
    rcases List.cons_lt_cons_iff.1 hlt with ha | ⟨-, hp⟩
    · exact Nat.lt_irrefl a ha
    · exact ih hp

theorem lt_append {p s : List ℕ} (hs : s ≠ []) : p < p ++ s := by
  induction p with
  | nil =>
    cases s with
    | nil => exact absurd rfl hs
    | cons a s => exact List.nil_lt_cons a s
  | cons a p ih => exact List.cons_lt_cons_iff.2 (.inr ⟨rfl, ih⟩)

/-- Two routes that part stay in their order however the first goes on. -/
theorem append_lt_of_not_isPrefix {p q : List ℕ} (h : p < q) (hp : ¬p <+: q) (s : List ℕ) :
    p ++ s < q := by
  induction p generalizing q with
  | nil => exact absurd (List.nil_prefix) hp
  | cons a p ih =>
    cases q with
    | nil => exact absurd h (List.not_lt_nil _)
    | cons b q =>
      rw [List.cons_append]
      rcases List.cons_lt_cons_iff.1 h with hab | ⟨rfl, hpq⟩
      · exact List.cons_lt_cons_iff.2 (.inl hab)
      · exact List.cons_lt_cons_iff.2 (.inr ⟨rfl, ih hpq fun hpre =>
          hp ((List.prefix_cons_inj a).2 hpre)⟩)

namespace Catalog

/-! ### Routes and their ends -/

/-- The type at the end of a route. -/
def follow (c : Catalog) : JavaType → List ℕ → Option JavaType
  | t, [] => some t
  | t, i :: route => (c.supertypesOf t)[i]?.bind fun u => c.follow u route

/-- The name of the type at the end of a route. -/
def nameAt? (c : Catalog) (t : JavaType) (route : List ℕ) : Option String :=
  (c.follow t route).bind JavaType.name?

/-- No type comes up again among its proper supertypes, whatever its arguments are. A type
parameter cannot be a supertype then, because it may stand for the declaration itself. -/
def Acyclic (c : Catalog) : Prop :=
  ∀ t n route, t.name? = some n → route ≠ [] → c.nameAt? t route ≠ some n

theorem follow_append (c : Catalog) (t : JavaType) (p q : List ℕ) :
    c.follow t (p ++ q) = (c.follow t p).bind fun u => c.follow u q := by
  induction p generalizing t with
  | nil => rfl
  | cons i p ih =>
    rw [List.cons_append, follow, follow, Option.bind_assoc]
    exact congrArg _ (funext fun u => ih u)

theorem supertypesOf_nameless {c : Catalog} {t : JavaType} (h : t.name? = none) :
    c.supertypesOf t = [] := by
  rw [supertypesOf, h]
  rfl

theorem supertypesOf_undeclared {c : Catalog} {t : JavaType} {n : String} (hn : t.name? = some n)
    (hd : c.find? n = none) : c.supertypesOf t = [] := by
  rw [supertypesOf, hn, Option.bind_some, hd]

/-! ### Names along routes without cycles -/

/-- A type parameter as a supertype would make a cycle as soon as it stood for its declaration. -/
theorem Acyclic.lookup_eq_none {c : Catalog} (hc : c.Acyclic) {n x : String} {d : Declaration}
    (hd : c.find? n = some d) (hx : .var x ∈ d.supertypes) (args : List JavaType) :
    (d.bindings args).lookup x = none := by
  by_contra hne
  obtain ⟨t, ht⟩ := Option.ne_none_iff_exists'.1 hne
  have hparam := (List.of_mem_zip (Declaration.mem_zip_of_lookup ht)).1
  let self : JavaType := .named n (d.typeParams.map fun _ => .plain n)
  obtain ⟨i, hi⟩ := List.mem_iff_getElem?.1 hx
  apply hc self n [i] rfl (List.cons_ne_nil i [])
  have hbind : (d.bindings self.args).lookup x = some (.plain n) := by
    have hargs : self.args.length = d.typeParams.length := List.length_map _
    obtain ⟨u, hu⟩ := Declaration.exists_lookup hargs hparam
    obtain ⟨_, -, rfl⟩ := List.mem_map.1 (List.of_mem_zip (Declaration.mem_zip_of_lookup hu)).2
    exact hu
  rw [nameAt?, follow, supertypesOf_eq rfl hd, List.getElem?_map, hi, Option.map_some,
    Option.bind_some, JavaType.substitute, hbind]
  rfl

theorem Acyclic.map_name?_supertypesOf {c : Catalog} (hc : c.Acyclic) {t u : JavaType}
    (h : t.name? = u.name?) :
    (c.supertypesOf t).map JavaType.name? = (c.supertypesOf u).map JavaType.name? := by
  cases hn : t.name? with
  | none => rw [supertypesOf_nameless hn, supertypesOf_nameless (h ▸ hn)]
  | some n =>
    have hn' : u.name? = some n := h ▸ hn
    cases hd : c.find? n with
    | none => rw [supertypesOf_undeclared hn hd, supertypesOf_undeclared hn' hd]
    | some d =>
      rw [supertypesOf_eq hn hd, supertypesOf_eq hn' hd, List.map_map, List.map_map]
      apply List.map_congr_left
      intro s hs
      cases s with
      | var x =>
        simp only [Function.comp_apply, JavaType.substitute, hc.lookup_eq_none hd hs]
      | named | array | wildcard | bounded => simp [JavaType.substitute, JavaType.name?]

/-- The names along a route depend on the name of the first type only. -/
theorem Acyclic.nameAt?_congr {c : Catalog} (hc : c.Acyclic) {t u : JavaType}
    (h : t.name? = u.name?) (route : List ℕ) : c.nameAt? t route = c.nameAt? u route := by
  induction route generalizing t u with
  | nil => exact h
  | cons i route ih =>
    have hnames := congrArg (·[i]?) (hc.map_name?_supertypesOf h)
    simp only [List.getElem?_map] at hnames
    unfold nameAt? follow
    cases ht : (c.supertypesOf t)[i]? with
    | none =>
      cases hu : (c.supertypesOf u)[i]? with
      | none => rfl
      | some u' => rw [ht, hu] at hnames; cases hnames
    | some t' =>
      cases hu : (c.supertypesOf u)[i]? with
      | none => rw [ht, hu] at hnames; cases hnames
      | some u' =>
        rw [ht, hu] at hnames
        exact ih (Option.some.inj hnames)

/-! ### Catalogs without cycles -/

/-- Substitution keeps the name of a class or interface. -/
theorem name?_substitute {t : JavaType} {n : String} (h : t.name? = some n)
    (σ : String → Option JavaType) : (t.substitute σ).name? = some n := by
  cases t with
  | named m args =>
    rw [JavaType.substitute]
    exact h
  | var | array | wildcard | bounded => cases h

/-- Supertypes of a lower rank make no cycle. -/
theorem acyclic_of_rank {c : Catalog} (rank : String → ℕ)
    (h : ∀ n d, c.find? n = some d → ∀ s ∈ d.supertypes, ∃ k, s.name? = some k ∧ rank k < rank n) :
    c.Acyclic := by
  have hrank : ∀ route t n k, t.name? = some n → c.nameAt? t route = some k →
      rank k + route.length ≤ rank n := by
    intro route
    induction route with
    | nil =>
      intro t n k hn hk
      rw [nameAt?, follow, Option.bind_some, hn] at hk
      rw [Option.some.inj hk, List.length_nil, Nat.add_zero]
    | cons i route ih =>
      intro t n k hn hk
      rw [nameAt?, follow, Option.bind_assoc, Option.bind_eq_some_iff] at hk
      obtain ⟨u, hu, hk⟩ := hk
      have hmem := List.mem_of_getElem? hu
      cases hd : c.find? n with
      | none =>
        rw [supertypesOf_undeclared hn hd] at hmem
        exact absurd hmem List.not_mem_nil
      | some d =>
        rw [supertypesOf_eq hn hd] at hmem
        obtain ⟨s, hs, rfl⟩ := List.mem_map.1 hmem
        obtain ⟨m, hm, hlt⟩ := h n d hd s hs
        have hle := ih (s.substitute _) m k (by rw [name?_substitute hm]) hk
        rw [List.length_cons]
        omega
  intro t n route hn hroute hat
  have hle := hrank route t n n hn hat
  have hpos := List.length_pos_iff.2 hroute
  omega

end Catalog

end BuilderPlanner
