import BuilderPlanner.Catalog.Surface
import BuilderPlanner.Proofs.Declaration.Bindings
import BuilderPlanner.Proofs.JavaType.Names

/-!
# New names for the type parameters of a method

The parameters that a method declares hide those of its type. So a method is seen through a use of
its type in one way, whatever their names are: the other variables are replaced, and its own are
kept. Only in the signature do the names show, because a variable erases to its own name.

* `newNames`, `Method.rename` — a method with other names for its own type parameters;
* `Method.seenWith`, `Method.seenThrough_rename` — it is seen as the method was, with the new names
  where its own parameters stand in the declaration;
* `Method.seenThrough_rename_of_apart` — if no type argument has a variable of such a name, it is
  enough to rename in what is seen;
* `Method.TakesOwn` — one of the parameters is a type parameter of the method, or an array of it;
  otherwise the signature stays (`Method.signature_seenThrough_rename`), and if so, it is that of no
  member in which the new names are fresh (`Method.signature_seenThrough_rename_ne`).
-/

namespace BuilderPlanner

open JavaType (FreshFor)

/-- New names for some variables. -/
def newNames (xs : List String) (ρ : String → String) (x : String) : Option JavaType :=
  if x ∈ xs then some (.var (ρ x)) else none

section

variable {xs : List String} {ρ : String → String} {x : String}

theorem newNames_of_mem (h : x ∈ xs) : newNames xs ρ x = some (.var (ρ x)) := if_pos h

theorem newNames_of_not_mem (h : x ∉ xs) : newNames xs ρ x = none := if_neg h

end

/-- The types of a member after a substitution. -/
def Member.substitute (σ : String → Option JavaType) (e : Member) : Member :=
  { e with params := e.params.map (JavaType.substitute σ), returns := e.returns.substitute σ }

namespace Method

/-- A method with other names for its own type parameters. -/
def rename (ρ : String → String) (m : Method) : Method :=
  { m with
    params := m.params.map (JavaType.substitute (newNames m.typeParams ρ))
    returns := m.returns.substitute (newNames m.typeParams ρ)
    typeParams := m.typeParams.map ρ }

/-- A method with types put in place of the variables that it is declared with. -/
def seenWith (σ : String → Option JavaType) (owner : String) (m : Method) : Member where
  name := m.name
  declaredIn := owner
  params := m.params.map (JavaType.substitute σ)
  returns := m.returns.substitute σ
  visibility := m.visibility
  modifiers := m.modifiers
  isAbstract := m.isAbstract

/-- What the variables of a renamed method are seen as: its own have their new names, and the others
are bound as before. -/
def seenAs (m : Method) (ρ : String → String) (b : Bindings) (x : String) : Option JavaType :=
  (newNames m.typeParams ρ x).or (b.lookup x)

/-- New names for its type parameters stand for no other variables in a method. -/
def Admits (m : Method) (ρ : String → String) : Prop :=
  ∀ x ∈ m.typeParams, ∀ p ∈ m.params ++ [m.returns], ρ x ∈ p.vars → ρ x ∈ m.typeParams

instance {m : Method} {ρ : String → String} : Decidable (m.Admits ρ) :=
  inferInstanceAs (Decidable (∀ x ∈ m.typeParams, ∀ p ∈ m.params ++ [m.returns],
    ρ x ∈ p.vars → ρ x ∈ m.typeParams))

variable {m : Method} {ρ : String → String} {b : Bindings} {owner : String}

theorem seenThrough_eq_seenWith :
    m.seenThrough b owner = m.seenWith (b.without m.typeParams).lookup owner := rfl

/-! ### What is seen -/

/-- If a method admits new names for its type parameters, the renamed method is seen as the method
was, with the new names where its own parameters stand. -/
theorem seenThrough_rename (h : m.Admits ρ) :
    (m.rename ρ).seenThrough b owner = m.seenWith (m.seenAs ρ b) owner := by
  have htype : ∀ p ∈ m.params ++ [m.returns],
      (p.substitute (newNames m.typeParams ρ)).substitute
          (b.without (m.typeParams.map ρ)).lookup = p.substitute (m.seenAs ρ b) := by
    intro p hp
    apply JavaType.substitute_substitute
    intro y hy
    by_cases hown : y ∈ m.typeParams
    · -- its own parameter gets its new name, and under this it hides the one of the type
      have hhidden := Bindings.lookup_without_of_mem (b := b) (List.mem_map_of_mem (f := ρ) hown)
      simp only [JavaType.substitute, seenAs, newNames_of_mem hown, Option.getD_some,
        Option.some_or, hhidden, Option.getD_none]
    · have hkept : y ∉ m.typeParams.map ρ := by
        intro hmem
        obtain ⟨x, hx, rfl⟩ := List.mem_map.1 hmem
        exact hown (h x hx p hp hy)
      simp only [JavaType.substitute, seenAs, newNames_of_not_mem hown, Option.getD_none,
        Option.none_or, Bindings.lookup_without_of_not_mem hkept]
  obtain ⟨hparams, hreturns⟩ := List.forall_mem_append.1 htype
  simp only [seenThrough, rename, seenWith, List.map_map]
  rw [List.forall_mem_singleton.1 hreturns]
  congr 1
  exact List.map_congr_left hparams

/-- If no type argument has a variable named like a type parameter of the method, the renamed method
is what was seen before with these variables renamed. -/
theorem seenThrough_rename_of_apart (h : m.Admits ρ)
    (hb : ∀ y u, b.lookup y = some u → ∀ x ∈ m.typeParams, x ∉ u.vars) :
    (m.rename ρ).seenThrough b owner =
      (m.seenThrough b owner).substitute (newNames m.typeParams ρ) := by
  have htype : ∀ p : JavaType, (p.substitute (b.without m.typeParams).lookup).substitute
      (newNames m.typeParams ρ) = p.substitute (m.seenAs ρ b) := by
    intro p
    apply JavaType.substitute_substitute
    intro y _
    by_cases hown : y ∈ m.typeParams
    · simp only [JavaType.substitute, seenAs, newNames_of_mem hown, Option.getD_some,
        Option.some_or, Bindings.lookup_without_of_mem hown, Option.getD_none]
    · simp only [JavaType.substitute, seenAs, newNames_of_not_mem hown, Option.none_or,
        Bindings.lookup_without_of_not_mem hown]
      cases hy : b.lookup y with
      | none => simp only [Option.getD_none, JavaType.substitute, newNames_of_not_mem hown]
      | some u =>
        refine JavaType.substitute_eq_self fun x hx => ?_
        have hx : x ∉ m.typeParams := fun hmem => hb y u hy x hmem hx
        simp only [JavaType.substitute, newNames_of_not_mem hx, Option.getD_none]
  rw [seenThrough_rename h]
  simp only [seenThrough, seenWith, Member.substitute, List.map_map, Function.comp_def, htype]

/-! ### Signatures -/

/-- One of the parameters is a type parameter of the method itself, or an array of it. -/
def TakesOwn (m : Method) : Prop :=
  ∃ p ∈ m.params, ∃ x ∈ m.typeParams, ∃ k, p = JavaType.array^[k] (.var x)

/-- A method that takes no value of its own type parameters keeps its signature. -/
theorem signature_seenThrough_rename (h : m.Admits ρ)
    (hm : ¬m.TakesOwn) :
    ((m.rename ρ).seenThrough b owner).signature = (m.seenThrough b owner).signature := by
  rw [seenThrough_rename h, seenThrough_eq_seenWith]
  simp only [Member.signature, seenWith, List.map_map, Prod.mk.injEq, true_and]
  apply List.map_congr_left
  intro p hp
  apply JavaType.erasure_substitute_congr
  intro k x hroot
  have hx : x ∉ m.typeParams := fun hmem => hm ⟨p, hp, x, hmem, k, hroot⟩
  simp only [JavaType.substitute, seenAs, newNames_of_not_mem hx, Option.none_or,
    Bindings.lookup_without_of_not_mem hx]

/-- A method that takes a value of its own type parameter has, under a new name for it, the
signature of no member in which this name is fresh. -/
theorem signature_seenThrough_rename_ne (h : m.Admits ρ)
    (hρ : ∀ x ∈ m.typeParams, isIdentifier (ρ x) = true) (hm : m.TakesOwn) {e : Member}
    (he : ∀ x ∈ m.typeParams, ∀ p ∈ e.params, FreshFor (ρ x) p) :
    e.signature ≠ ((m.rename ρ).seenThrough b owner).signature := by
  obtain ⟨p, hp, x, hx, k, rfl⟩ := hm
  have hmem : (JavaType.array^[k] (.var (ρ x))).erasure ∈
      ((m.rename ρ).seenThrough b owner).signature.2 := by
    rw [seenThrough_rename h]
    refine List.mem_map.2 ⟨_, List.mem_map_of_mem hp, ?_⟩
    rw [JavaType.substitute_iterate_array]
    simp only [JavaType.substitute, seenAs, newNames_of_mem hx, Option.some_or, Option.getD_some]
  intro heq
  rw [← heq] at hmem
  obtain ⟨p', hp', herasure⟩ := List.mem_map.1 hmem
  exact (he x hx p' hp').erasure_ne (hρ x hx) k herasure

end Method

end BuilderPlanner
