import BuilderPlanner.Proofs.JavaType.Rereading

/-!
# The variables of a type

* `vars`, `plainNames` — the variables and the names without arguments that occur in a type;
* `vars_subset_of_ofTextIn`, `not_mem_plainNames_of_ofTextIn` — a type that was read in a scope has
  no other variables than those of the scope, and all of these as variables;
* `mem_vars_substitute` — the variables after a substitution are those of the types that it puts in;
* `substitute_eq_self`, `substitute_substitute` — what a substitution does depends on the variables
  that occur: it leaves a type as it is if it leaves these, and two after each other are one if they
  are so on these.
-/

namespace BuilderPlanner

namespace JavaType

mutual

/-- The variables of a type. -/
def vars : JavaType → List String
  | named _ args => varsAll args
  | var name => [name]
  | array element => element.vars
  | wildcard => []
  | bounded _ limit => limit.vars

/-- The variables of the types of a list. -/
def varsAll : List JavaType → List String
  | [] => []
  | a :: rest => a.vars ++ varsAll rest

end

mutual

/-- The names without arguments in a type. -/
def plainNames : JavaType → List String
  | named name [] => [name]
  | named _ (a :: rest) => a.plainNames ++ plainNamesAll rest
  | var _ => []
  | array element => element.plainNames
  | wildcard => []
  | bounded _ limit => limit.plainNames

/-- The names without arguments in the types of a list. -/
def plainNamesAll : List JavaType → List String
  | [] => []
  | a :: rest => a.plainNames ++ plainNamesAll rest

end

theorem mem_varsAll {x : String} {ts : List JavaType} :
    x ∈ varsAll ts ↔ ∃ t ∈ ts, x ∈ t.vars := by
  induction ts with
  | nil => simp [varsAll]
  | cons t ts ih => simp [varsAll, ih]

/-! ### Variables of types that are read -/

/-- What is read has no variables but those that its scope makes of names. -/
theorem Readable.vars_bind_subset {t : JavaType} (h : Readable t) (scope : List String) :
    (t.bind scope).vars ⊆ scope := by
  induction h with
  | @named q n ts _ _ _ ih =>
    cases ts with
    | nil =>
      rw [bind]
      split
      · rename_i hn
        exact List.cons_subset.2 ⟨List.contains_iff_mem.1 hn, List.nil_subset scope⟩
      · exact List.nil_subset scope
    | cons t ts =>
      rw [bind, bindAll_eq_map, vars]
      intro x hx
      obtain ⟨u, hu, hx⟩ := mem_varsAll.1 hx
      have hu : u ∈ (t :: ts).map (bind scope) := hu
      obtain ⟨v, hv, rfl⟩ := List.mem_map.1 hu
      exact ih v hv hx
  | array _ _ ih => exact ih
  | wildcard => exact List.nil_subset scope
  | bounded b _ ih => exact ih

theorem vars_subset_of_ofTextIn {scope : List String} {text : String} {t : JavaType}
    (h : ofTextIn scope text = .ok t) : t.vars ⊆ scope := by
  obtain ⟨u, hu, rfl⟩ := map_eq_ok_iff.1 h
  exact (readable_iff.2 ⟨text, hu⟩).vars_bind_subset scope

/-! ### Names of types that are read -/

theorem mem_plainNamesAll {x : String} {ts : List JavaType} :
    x ∈ plainNamesAll ts ↔ ∃ t ∈ ts, x ∈ t.plainNames := by
  induction ts with
  | nil => simp [plainNamesAll]
  | cons t ts ih => simp [plainNamesAll, ih]

/-- A name in scope is left nowhere as a name without arguments. -/
theorem not_mem_plainNames_bind {scope : List String} {x : String} (hx : x ∈ scope)
    (t : JavaType) : x ∉ (t.bind scope).plainNames := by
  induction t with
  | named n ts ih =>
    cases ts with
    | nil =>
      rw [bind]
      split
      · exact List.not_mem_nil
      · rename_i hn
        intro h
        obtain rfl := List.mem_singleton.1 h
        exact hn (List.contains_iff_mem.2 hx)
    | cons t ts =>
      intro h
      have hall : x ∈ plainNamesAll ((t :: ts).map (bind scope)) := by
        rwa [bind, bindAll_eq_map, plainNames] at h
      obtain ⟨u, hu, hmem⟩ := mem_plainNamesAll.1 hall
      obtain ⟨v, hv, rfl⟩ := List.mem_map.1 hu
      exact ih v hv hmem
  | var y => exact List.not_mem_nil
  | array t ih => exact ih
  | wildcard => exact List.not_mem_nil
  | bounded b t ih => exact ih

theorem not_mem_plainNames_of_ofTextIn {scope : List String} {text : String} {t : JavaType}
    (h : ofTextIn scope text = .ok t) {x : String} (hx : x ∈ scope) : x ∉ t.plainNames := by
  obtain ⟨u, -, rfl⟩ := map_eq_ok_iff.1 h
  exact not_mem_plainNames_bind hx u

/-! ### Substitutions -/

/-- The variables after a substitution are those of the types that it puts in for variables. -/
theorem mem_vars_substitute {σ : String → Option JavaType} {t : JavaType} {x : String} :
    x ∈ (t.substitute σ).vars ↔ ∃ y ∈ t.vars, x ∈ ((var y).substitute σ).vars := by
  induction t with
  | named n ts ih =>
    rw [substitute, substituteAll_eq_map, vars, vars, mem_varsAll]
    constructor
    · intro h
      obtain ⟨u, hu, hx⟩ := h
      obtain ⟨t, ht, rfl⟩ := List.mem_map.1 hu
      obtain ⟨y, hy, hx⟩ := (ih t ht).1 hx
      exact ⟨y, mem_varsAll.2 ⟨t, ht, hy⟩, hx⟩
    · intro h
      obtain ⟨y, hy, hx⟩ := h
      obtain ⟨t, ht, hy⟩ := mem_varsAll.1 hy
      exact ⟨_, List.mem_map_of_mem ht, (ih t ht).2 ⟨y, hy, hx⟩⟩
  | var y => simp [vars]
  | array t ih => exact ih
  | wildcard => simp [substitute, vars]
  | bounded b t ih => exact ih

/-- A substitution that leaves the variables of a type as they are leaves the type as it is. -/
theorem substitute_eq_self {σ : String → Option JavaType} {t : JavaType}
    (h : ∀ x ∈ t.vars, (var x).substitute σ = var x) : t.substitute σ = t := by
  induction t with
  | named n ts ih =>
    rw [substitute, substituteAll_eq_map]
    congr 1
    refine (List.map_congr_left fun t ht => ?_).trans (List.map_id ts)
    exact ih t ht fun x hx => h x (mem_varsAll.2 ⟨t, ht, hx⟩)
  | var x => exact h x List.mem_cons_self
  | array t ih => rw [substitute, ih h]
  | wildcard => rfl
  | bounded b t ih => rw [substitute, ih h]

/-- Two substitutions after each other are one, if they are so on the variables that occur. All
variables are replaced at once, so it does not matter which variables the types in their places
have. -/
theorem substitute_substitute {σ τ ρ : String → Option JavaType} {t : JavaType}
    (h : ∀ x ∈ t.vars, ((var x).substitute σ).substitute τ = (var x).substitute ρ) :
    (t.substitute σ).substitute τ = t.substitute ρ := by
  induction t with
  | named n ts ih =>
    rw [substitute, substitute, substitute, substituteAll_eq_map, substituteAll_eq_map,
      substituteAll_eq_map, List.map_map]
    congr 1
    apply List.map_congr_left
    intro t ht
    exact ih t ht fun x hx => h x (mem_varsAll.2 ⟨t, ht, hx⟩)
  | var x => exact h x List.mem_cons_self
  | array t ih => rw [substitute, substitute, substitute, ih h]
  | wildcard => rfl
  | bounded b t ih => rw [substitute, substitute, substitute, ih h]

end JavaType

end BuilderPlanner
