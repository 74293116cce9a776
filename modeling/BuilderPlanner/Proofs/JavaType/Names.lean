import BuilderPlanner.Proofs.JavaType.Variables
import BuilderPlanner.Proofs.Name.Identifier
import Mathlib.Logic.Function.Iterate

/-!
# The names in a type

Two methods of one name override each other if their parameters have the same erasures. The erasure
of a type is one of the names in it, or that of the root class, with brackets for the arrays around
it. A variable erases to its own name.

* `names`, `words` — the names of classes, interfaces and primitive types in a type, those of its
  type arguments included, and the same with the variables;
* `mem_names_substitute`, `mem_words_substitute` — a substitution brings in no other names than
  those of the types that it puts in;
* `Readable.bracket_not_mem` — the names in a type that was read have no brackets;
* `erasure_substitute_congr`, `substitute_iterate_array` — what a substitution does to the erasure
  depends on the variable, if any, that the type is, or is an array of;
* `FreshFor` — names that are not in a type, and so not in what is put together from such types; no
  such type has the erasure of a variable of the name (`FreshFor.erasure_ne`).
-/

namespace BuilderPlanner

namespace JavaType

mutual

/-- The names of classes, interfaces and primitive types in a type. -/
def names : JavaType → List String
  | named name args => name :: namesAll args
  | var _ => []
  | array element => element.names
  | wildcard => []
  | bounded _ limit => limit.names

/-- The names in the types of a list. -/
def namesAll : List JavaType → List String
  | [] => []
  | a :: rest => a.names ++ namesAll rest

end

theorem mem_namesAll {n : String} {ts : List JavaType} :
    n ∈ namesAll ts ↔ ∃ t ∈ ts, n ∈ t.names := by
  induction ts with
  | nil => simp [namesAll]
  | cons t ts ih => simp [namesAll, ih]

theorem mem_names_of_name? {n : String} {t : JavaType} (h : t.name? = some n) : n ∈ t.names := by
  cases t with
  | named m ts =>
    obtain rfl := Option.some.inj h
    exact List.mem_cons_self
  | var _ => cases h
  | array _ => cases h
  | wildcard => cases h
  | bounded _ _ => cases h

theorem mem_names_of_mem_args {n : String} {t u : JavaType} (hu : u ∈ t.args) (hn : n ∈ u.names) :
    n ∈ t.names := by
  cases t with
  | named m ts => exact List.mem_cons_of_mem m (mem_namesAll.2 ⟨u, hu, hn⟩)
  | var _ => exact absurd hu List.not_mem_nil
  | array _ => exact absurd hu List.not_mem_nil
  | wildcard => exact absurd hu List.not_mem_nil
  | bounded _ _ => exact absurd hu List.not_mem_nil

/-- A substitution brings in no other names than those of the types that it puts in. -/
theorem mem_names_substitute {σ : String → Option JavaType} {n : String} {t : JavaType}
    (h : n ∈ (t.substitute σ).names) : n ∈ t.names ∨ ∃ x u, σ x = some u ∧ n ∈ u.names := by
  induction t with
  | named m ts ih =>
    rw [substitute, substituteAll_eq_map, names] at h
    rcases List.mem_cons.1 h with rfl | h
    · exact .inl List.mem_cons_self
    · obtain ⟨u, hu, hn⟩ := mem_namesAll.1 h
      obtain ⟨t, ht, rfl⟩ := List.mem_map.1 hu
      rcases ih t ht hn with hn | hn
      · exact .inl (List.mem_cons_of_mem m (mem_namesAll.2 ⟨t, ht, hn⟩))
      · exact .inr hn
  | var x =>
    rw [substitute] at h
    cases hσ : σ x with
    | none => simp [hσ, names] at h
    | some u => exact .inr ⟨x, u, hσ, by simpa [hσ] using h⟩
  | array t ih => exact ih h
  | wildcard => exact .inl h
  | bounded b t ih => exact ih h

/-- Variables are no names. -/
theorem names_named_vars (n : String) (xs : List String) : (named n (xs.map var)).names = [n] := by
  have hvars : namesAll (xs.map var) = [] := by
    induction xs with
    | nil => rfl
    | cons x xs ih => exact ih
  rw [names, hvars]

/-! ### Names and variables -/

/-- The names of classes, interfaces, primitive types and variables in a type. -/
def words (t : JavaType) : List String := t.names ++ t.vars

section

variable {w n z : String} {t u : JavaType} {ts : List JavaType} {σ τ : String → Option JavaType}

theorem mem_words_named : w ∈ (named n ts).words ↔ w = n ∨ ∃ t ∈ ts, w ∈ t.words := by
  simp only [words, names, vars, List.cons_append, List.mem_cons, List.mem_append, mem_namesAll,
    mem_varsAll, and_or_left, exists_or]

theorem mem_words_var : w ∈ (var n).words ↔ w = n := List.mem_singleton

theorem mem_words_of_mem_args (hu : u ∈ t.args) (hw : w ∈ u.words) : w ∈ t.words := by
  cases t with
  | named n ts => exact mem_words_named.2 (.inr ⟨u, hu, hw⟩)
  | var _ => exact absurd hu List.not_mem_nil
  | array _ => exact absurd hu List.not_mem_nil
  | wildcard => exact absurd hu List.not_mem_nil
  | bounded _ _ => exact absurd hu List.not_mem_nil

theorem mem_words_substitute (h : w ∈ (t.substitute σ).words) :
    w ∈ t.words ∨ ∃ x u, σ x = some u ∧ w ∈ u.words := by
  induction t with
  | named n ts ih =>
    rw [substitute, substituteAll_eq_map] at h
    rcases mem_words_named.1 h with rfl | ⟨u, hu, hw⟩
    · exact .inl (mem_words_named.2 (.inl rfl))
    · obtain ⟨t, ht, rfl⟩ := List.mem_map.1 hu
      exact (ih t ht hw).imp_left fun hw => mem_words_named.2 (.inr ⟨t, ht, hw⟩)
  | var x =>
    rw [substitute] at h
    cases hσ : σ x with
    | none =>
      rw [hσ] at h
      exact .inl h
    | some u =>
      rw [hσ] at h
      exact .inr ⟨x, u, hσ, h⟩
  | array t ih => exact ih h
  | wildcard => exact .inl h
  | bounded b t ih => exact ih h

theorem mem_words_bind {scope : List String} (h : w ∈ (t.bind scope).words) : w ∈ t.words := by
  induction t with
  | named n ts ih =>
    cases ts with
    | nil =>
      rw [bind] at h
      split at h
      · exact mem_words_named.2 (.inl (mem_words_var.1 h))
      · exact h
    | cons t ts =>
      rw [bind, bindAll_eq_map, ← List.map_cons] at h
      rcases mem_words_named.1 h with rfl | ⟨u, hu, hw⟩
      · exact mem_words_named.2 (.inl rfl)
      · obtain ⟨t', ht', rfl⟩ := List.mem_map.1 hu
        exact mem_words_named.2 (.inr ⟨t', ht', ih t' ht' hw⟩)
  | var x => exact h
  | array t ih => exact ih h
  | wildcard => exact h
  | bounded b t ih => exact ih h

/-! ### Names in types that are read -/

theorem bracket_not_mem_of_isWord (h : IsWord w) : '[' ∉ w.toList := by
  have hbracket : beginsWord '[' = false ∧ continuesWord '[' = false := by decide +kernel
  obtain ⟨c, rest, hw, -, -, hc, hrest⟩ := h
  rw [hw, List.mem_cons, not_or]
  constructor
  · rintro rfl
    exact Bool.noConfusion (hbracket.1.symm.trans hc)
  · intro hmem
    exact Bool.noConfusion (hbracket.2.symm.trans (hrest _ hmem))

theorem IsName.bracket_not_mem {q : List TokenKind} (hn : IsName q n) (hq : AllWords q) :
    '[' ∉ n.toList := by
  induction hn with
  | word w => exact bracket_not_mem_of_isWord (hq w List.mem_cons_self)
  | @dotted q n h w ih =>
    have hleft := ih (hq.subset (List.subset_append_left _ _))
    have hright := bracket_not_mem_of_isWord (hq w (by simp))
    simp [hleft, hright]

theorem Readable.bracket_not_mem (h : Readable t) (hw : w ∈ t.words) : '[' ∉ w.toList := by
  induction h with
  | named hn hq _ ih =>
    rcases mem_words_named.1 hw with rfl | ⟨t, ht, hw⟩
    · exact hn.bracket_not_mem hq
    · exact ih t ht hw
  | array _ _ ih => exact ih hw
  | wildcard => exact absurd hw List.not_mem_nil
  | bounded b _ ih => exact ih hw

/-- The names in a type that was read have no brackets. -/
theorem bracket_not_mem_of_ofTextIn {scope : List String} {text : String}
    (h : ofTextIn scope text = .ok t) (hw : w ∈ t.words) : '[' ∉ w.toList := by
  obtain ⟨u, hu, rfl⟩ := map_eq_ok_iff.1 h
  exact (readable_iff.2 ⟨text, hu⟩).bracket_not_mem (mem_words_bind hw)

/-! ### Erasures after substitutions -/

theorem substitute_iterate_array (k : ℕ) (t : JavaType) :
    (array^[k] t).substitute σ = array^[k] (t.substitute σ) := by
  induction k with
  | zero => rfl
  | succ k ih => rw [Function.iterate_succ_apply', Function.iterate_succ_apply', substitute, ih]

/-- Only the variable that a type is, or is an array of, bears on the erasure after a
substitution. -/
theorem erasure_substitute_congr
    (h : ∀ k x, t = array^[k] (var x) →
      ((var x).substitute σ).erasure = ((var x).substitute τ).erasure) :
    (t.substitute σ).erasure = (t.substitute τ).erasure := by
  induction t with
  | named n ts ih => rfl
  | var x => exact h 0 x rfl
  | array t ih =>
    rw [substitute, substitute, erasure, erasure, ih fun k x ht => h (k + 1) x ?_]
    rw [ht, Function.iterate_succ_apply']
  | wildcard => rfl
  | bounded b t ih => rfl

/-! ### Fresh names -/

/-- A name stands nowhere in a type, nor does it stand there with the brackets of arrays behind
it. -/
def FreshFor (z : String) (t : JavaType) : Prop :=
  ∀ w ∈ t.words, ∀ k, w ≠ (array^[k] (var z)).erasure

theorem char_mem_erasure_iterate {c : Char} {k : ℕ} (h : c ∈ (array^[k] (var z)).erasure.toList) :
    c ∈ z.toList ∨ c ∈ ['[', ']'] := by
  induction k with
  | zero => exact .inl h
  | succ k ih =>
    rw [Function.iterate_succ_apply', erasure, String.toList_append, List.mem_append] at h
    exact h.elim ih .inr

/-- In a type without brackets in its names, a name is fresh if it is none of them. -/
theorem freshFor_of_bracket_not_mem (h : ∀ w ∈ t.words, '[' ∉ w.toList) (hz : z ∉ t.words) :
    FreshFor z t := by
  rintro w hw (_ | k) rfl
  · exact hz hw
  · refine h _ hw ?_
    rw [Function.iterate_succ_apply', erasure, String.toList_append]
    exact List.mem_append_right _ List.mem_cons_self

theorem freshFor_of_ofTextIn {scope : List String} {text : String}
    (h : ofTextIn scope text = .ok t) (hz : z ∉ t.words) : FreshFor z t :=
  freshFor_of_bracket_not_mem (fun _ => bracket_not_mem_of_ofTextIn h) hz

theorem FreshFor.substitute (h : FreshFor z t) (hσ : ∀ x u, σ x = some u → FreshFor z u) :
    FreshFor z (t.substitute σ) := by
  intro w hw
  rcases mem_words_substitute hw with hw | ⟨x, u, hu, hw⟩
  · exact h w hw
  · exact hσ x u hu w hw

theorem FreshFor.of_mem_args (h : FreshFor z t) (hu : u ∈ t.args) : FreshFor z u :=
  fun w hw => h w (mem_words_of_mem_args hu hw)

/-- The root class has a dot in its name, so it is neither a variable nor an array of it. -/
theorem objectName_ne_erasure (hz : isIdentifier z = true) (k : ℕ) :
    objectName ≠ (array^[k] (var z)).erasure := by
  intro heq
  have hdot : '.' ∈ objectName.toList := by decide
  rw [heq] at hdot
  rcases char_mem_erasure_iterate hdot with hmem | hmem
  · exact dot_not_mem_of_isIdentifier hz hmem
  · exact absurd hmem (by decide)

theorem freshFor_object (hz : isIdentifier z = true) : FreshFor z object := by
  intro w hw k
  obtain rfl := List.mem_singleton.1 (hw : w ∈ [objectName])
  exact objectName_ne_erasure hz k

/-- No type has the erasure of a variable that is fresh for it, or of an array of this. -/
theorem FreshFor.erasure_ne (h : FreshFor z t) (hz : isIdentifier z = true) (k : ℕ) :
    t.erasure ≠ (array^[k] (var z)).erasure := by
  induction t generalizing k with
  | named n ts ih => exact h n (mem_words_named.2 (.inl rfl)) k
  | var x => exact h x (mem_words_var.2 rfl) k
  | array t ih =>
    intro heq
    cases k with
    | zero =>
      have hname : t.erasure ++ "[]" = z := heq
      refine not_mem_of_isIdentifier hz (c := '[') (by decide +kernel) ?_
      rw [← hname, String.toList_append]
      exact List.mem_append_right _ List.mem_cons_self
    | succ k =>
      rw [Function.iterate_succ_apply', erasure, erasure, String.append_left_inj] at heq
      exact ih h k heq
  | wildcard => exact objectName_ne_erasure hz k
  | bounded b t ih => exact objectName_ne_erasure hz k

end

end JavaType

end BuilderPlanner
