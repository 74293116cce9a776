import BuilderPlanner.Declaration.Basic
import BuilderPlanner.Proofs.Catalog.Loaded
import Mathlib.Data.List.Basic

/-!
# What type parameters stand for

* `Bindings.mem_of_lookup`, `Bindings.lookup_of_mem` — what is found is an entry, and each entry is
  found where no two share a name;
* `Bindings.lookup_without_of_mem`, `Bindings.lookup_without_of_not_mem` — where names are hidden;
* `Declaration.mem_args_of_mem_bindings`, `Declaration.mem_zip_of_lookup`,
  `Declaration.exists_lookup` — the parameters stand for the arguments of a use, if there are as
  many;
* `Declaration.lookup_bindings_vars`, `Declaration.bindings_self`,
  `Declaration.substitute_var_bindings` — inside its declaration a parameter stands for itself;
* `Declaration.lookup_bindings_map` — bindings of arguments that were mapped.
-/

namespace BuilderPlanner

namespace Bindings

theorem lookup_map (f : JavaType → JavaType) (b : Bindings) (name : String) :
    Bindings.lookup (b.map (Prod.map id f)) name = (b.lookup name).map f := by
  rw [lookup, lookup, ← List.map_reverse, NameMap.lookup_map_snd]

theorem mem_of_lookup {b : Bindings} {x : String} {t : JavaType} (h : b.lookup x = some t) :
    (x, t) ∈ b := by
  obtain ⟨l₁, l₂, heq, -⟩ := List.lookup_eq_some_iff.1 h
  rw [← List.mem_reverse, heq]
  exact List.mem_append_right l₁ List.mem_cons_self

/-- Where no two entries share a name, each entry is found. -/
theorem lookup_of_mem {b : Bindings} (hnodup : (b.map Prod.fst).Nodup) {x : String} {t : JavaType}
    (h : (x, t) ∈ b) : b.lookup x = some t := by
  cases hlookup : b.lookup x with
  | none =>
    rw [lookup, List.lookup_eq_none_iff] at hlookup
    exact absurd (hlookup _ (List.mem_reverse.2 h)) (by simp)
  | some u =>
    have heq := List.inj_on_of_nodup_map hnodup (mem_of_lookup hlookup) h rfl
    rw [(Prod.mk.inj heq).2]

/-- Bindings of names to themselves leave all variables as they are. -/
theorem substitute_var_of_forall {b : Bindings} (h : ∀ e ∈ b, e.2 = .var e.1) (x : String) :
    (JavaType.var x).substitute b.lookup = .var x := by
  rw [JavaType.substitute]
  cases hlookup : b.lookup x with
  | none => rfl
  | some t => exact h _ (mem_of_lookup hlookup)

theorem mem_of_mem_without {b : Bindings} {names : List String} {e : String × JavaType}
    (h : e ∈ b.without names) : e ∈ b :=
  (List.mem_filter.1 h).1

theorem without_nil (b : Bindings) : b.without [] = b := by
  rw [without, List.filter_eq_self]
  intro entry _
  rfl

theorem lookup_without_of_mem {b : Bindings} {names : List String} {x : String} (h : x ∈ names) :
    (b.without names).lookup x = none := by
  rw [Option.eq_none_iff_forall_ne_some]
  intro t ht
  have hkept := (List.mem_filter.1 (mem_of_lookup ht)).2
  simp [h] at hkept

theorem lookup_without_of_not_mem {b : Bindings} {names : List String} {x : String}
    (h : x ∉ names) : (b.without names).lookup x = b.lookup x := by
  rw [lookup, lookup, without, ← List.filter_reverse]
  generalize b.reverse = entries
  induction entries with
  | nil => rfl
  | cons e rest ih =>
    by_cases he : e.1 ∈ names
    · have hne : x ≠ e.1 := fun heq => h (heq ▸ he)
      rw [List.filter_cons_of_neg (by simpa using he), ih, List.lookup_cons,
        beq_eq_false_iff_ne.2 hne]
    · rw [List.filter_cons_of_pos (by simpa using he), List.lookup_cons, List.lookup_cons, ih]

end Bindings

namespace Declaration

variable {d : Declaration} {args : List JavaType} {x : String} {t : JavaType}

theorem mem_args_of_mem_bindings (h : (x, t) ∈ d.bindings args) : t ∈ args := by
  unfold bindings at h
  split at h
  · exact (List.of_mem_zip h).2
  · exact absurd h List.not_mem_nil

theorem mem_zip_of_lookup (h : (d.bindings args).lookup x = some t) :
    (x, t) ∈ d.typeParams.zip args := by
  unfold bindings at h
  split at h
  · exact Bindings.mem_of_lookup h
  · cases h

theorem exists_lookup (h : args.length = d.typeParams.length) (hx : x ∈ d.typeParams) :
    ∃ t, (d.bindings args).lookup x = some t := by
  obtain ⟨i, hi, rfl⟩ := List.mem_iff_getElem.1 hx
  have hi' : i < (d.typeParams.zip args).length := by
    rw [List.length_zip, h, Nat.min_self]
    exact hi
  have hmem : (d.typeParams[i], args[i]) ∈ (d.typeParams.zip args).reverse := by
    rw [List.mem_reverse, ← List.getElem_zip]
    exact List.getElem_mem hi'
  rw [bindings, if_pos h, Bindings.lookup, ← Option.ne_none_iff_exists']
  intro hnone
  rw [List.lookup_eq_none_iff] at hnone
  exact absurd (hnone _ hmem) (by simp)

/-- Inside its declaration a parameter stands for itself. -/
theorem lookup_bindings_vars (hx : x ∈ d.typeParams) :
    (d.bindings (d.typeParams.map .var)).lookup x = some (.var x) := by
  have hlength : (d.typeParams.map JavaType.var).length = d.typeParams.length := List.length_map _
  obtain ⟨t, ht⟩ := exists_lookup hlength hx
  have hmem := mem_zip_of_lookup ht
  rw [← List.map_prod_left_eq_zip] at hmem
  obtain ⟨y, -, heq⟩ := List.mem_map.1 hmem
  cases heq
  exact ht

/-- A use without arguments, and the one inside the declaration, bind parameters to themselves. -/
theorem bindings_self (h : args = [] ∨ args = d.typeParams.map .var) :
    ∀ e ∈ d.bindings args, e.2 = .var e.1 := by
  intro e he
  unfold bindings at he
  split at he
  · rcases h with rfl | rfl
    · simp at he
    · rw [← List.map_prod_left_eq_zip] at he
      obtain ⟨y, -, rfl⟩ := List.mem_map.1 he
      rfl
  · cases he

/-- So such a use leaves all variables as they are. -/
theorem substitute_var_bindings (h : args = [] ∨ args = d.typeParams.map .var) (x : String) :
    (JavaType.var x).substitute (d.bindings args).lookup = .var x :=
  Bindings.substitute_var_of_forall (bindings_self h) x

theorem lookup_bindings_map (f : JavaType → JavaType) (args : List JavaType) (x : String) :
    (d.bindings (args.map f)).lookup x = ((d.bindings args).lookup x).map f := by
  unfold bindings
  rw [List.length_map]
  split
  · rw [List.zip_map_right, Bindings.lookup_map]
  · rfl

end Declaration

end BuilderPlanner
