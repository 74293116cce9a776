import BuilderPlanner.Proofs.Catalog.Loaded
import BuilderPlanner.Proofs.Declaration.Bindings
import BuilderPlanner.Proofs.JavaType.Variables
import BuilderPlanner.Proofs.Surface.Visits

/-!
# Surfaces of raw uses

A use of a declaration binds its parameters only if it gives as many arguments. Where nothing is
bound, as where every parameter is bound to itself, the methods and the supertypes are seen as they
are declared. So a raw use, and any other with a wrong number of arguments, has the surface that the
declaration has inside itself.

* `Bindings.substitute_eq_self`, `Method.seenThrough_self` — bindings of names to themselves leave
  types as they are;
* `Catalog.surface_congr` — the surface of a type depends on what its first visit finds;
* `Catalog.surface_eq_of_self` — two uses that bind no parameter to anything else have one surface;
* `Catalog.surface_rawUse` — a raw use has the surface of the declaration inside itself.
-/

namespace BuilderPlanner

/-! ### Bindings of names to themselves -/

/-- Bindings of names to themselves leave all types as they are. -/
theorem Bindings.substitute_eq_self {b : Bindings} (h : ∀ e ∈ b, e.2 = .var e.1) (t : JavaType) :
    t.substitute b.lookup = t :=
  JavaType.substitute_eq_self fun x _ => substitute_var_of_forall h x

/-- A method is seen in one way through all bindings of names to themselves. -/
theorem Method.seenThrough_self {b b' : Bindings} (h : ∀ e ∈ b, e.2 = .var e.1)
    (h' : ∀ e ∈ b', e.2 = .var e.1) (owner : String) (m : Method) :
    m.seenThrough b owner = m.seenThrough b' owner := by
  have hself : JavaType.substitute (b.without m.typeParams).lookup =
      JavaType.substitute (b'.without m.typeParams).lookup := by
    funext t
    rw [Bindings.substitute_eq_self fun e he => h e (Bindings.mem_of_mem_without he),
      Bindings.substitute_eq_self fun e he => h' e (Bindings.mem_of_mem_without he)]
  simp only [seenThrough, hself]

/-- A use with another number of arguments than there are parameters binds nothing. -/
theorem Declaration.bindings_of_length_ne {d : Declaration} {args : List JavaType}
    (h : args.length ≠ d.typeParams.length) : d.bindings args = [] :=
  if_neg h

namespace Catalog

variable {c : Catalog} {d : Declaration} {q : String}

/-! ### The first visit -/

/-- The surface of a type depends on what its first visit finds. -/
theorem surface_congr {t t' : JavaType} {n : String} (hn : t.name? = some n)
    (hn' : t'.name? = some n) (hsupertypes : c.supertypesOf t = c.supertypesOf t')
    (hown : c.ownMembers t = c.ownMembers t') : c.surface t = c.surface t' := by
  have hdeclares : c.declares t' = c.declares t := (declares_eq hn').trans (declares_eq hn).symm
  rw [surface, surface, hdeclares]
  by_cases ht : c.declares t = true
  · obtain ⟨d, hd⟩ := Option.isSome_iff_exists.1 ((declares_eq hn).symm.trans ht)
    rw [if_pos ht, if_pos ht, walk_first hn List.not_mem_nil hd,
      walk_first hn' List.not_mem_nil hd, hsupertypes, hown]
  · rw [if_neg ht, if_neg ht]

/-- Two uses that bind no parameter to anything but itself have one surface. -/
theorem surface_eq_of_self (hd : c.find? q = some d) {args args' : List JavaType}
    (h : ∀ e ∈ d.bindings args, e.2 = .var e.1) (h' : ∀ e ∈ d.bindings args', e.2 = .var e.1) :
    c.surface (.named q args) = c.surface (.named q args') := by
  refine surface_congr (n := q) rfl rfl ?_ ?_
  · rw [supertypesOf_eq rfl hd, supertypesOf_eq rfl hd]
    refine List.map_congr_left fun s _ => ?_
    exact (Bindings.substitute_eq_self h s).trans (Bindings.substitute_eq_self h' s).symm
  · rw [ownMembers_eq rfl hd, ownMembers_eq rfl hd]
    exact List.map_congr_left fun m _ => m.seenThrough_self h h' d.qualifiedName

/-- A declaration has the same members, whether it is used by its bare name or with its
parameters. -/
theorem membersOf_selfUse (hd : c.find? d.qualifiedName = some d) :
    c.membersOf (.plain d.qualifiedName) = c.membersOf d.declaredType :=
  congrArg Surface.members (surface_eq_of_self hd (Declaration.bindings_self (.inl rfl))
    (Declaration.bindings_self (.inr rfl)))

/-- **A raw use has the surface of the declaration inside itself.** In a loaded catalog a declared
type has the same members, in the same order, by its bare name as with its own parameters. So has
every use of it with a wrong number of arguments, and its walk comes by the same supertypes that are
not declared. -/
theorem surface_rawUse {doc : Document} {c : Catalog} (hload : doc.catalog = .ok c) {q : String}
    {d : Declaration} (hd : c.find? q = some d) :
    c.membersOf (.plain q) = c.membersOf d.declaredType ∧
      ∀ args, args = [] ∨ args.length ≠ d.typeParams.length →
        c.surface (.named q args) = c.surface d.declaredType := by
  obtain rfl := Document.qualifiedName_of_catalog hload hd
  refine ⟨membersOf_selfUse hd, fun args hargs => ?_⟩
  refine surface_eq_of_self hd ?_ (Declaration.bindings_self (.inr rfl))
  rcases hargs with rfl | hlength
  · exact Declaration.bindings_self (.inl rfl)
  · intro e he
    rw [Declaration.bindings_of_length_ne hlength] at he
    exact absurd he List.not_mem_nil

/-- A type with a parameter that is given twice, hidden by a method and passed on to supertypes. -/
def doubledDocument : Document where
  types := .ofList [
    ("a.Base",
      { typeParams := ["A", "B"]
        methods := [{ name := "first", returns := "A" }, { name := "second", returns := "B" }] }),
    ("a.Doubled",
      { typeParams := ["T", "T", "U"], supertypes := ["a.Base<U, T[]>", "a.Missing<T>"]
        methods := [{ name := "own", typeParams := ["T"], returns := "T" },
          { name := "other", params := ["T", "U"], returns := "T" }] })]

/-- The raw use and one with a wrong number of arguments have the surface of the declared type. -/
theorem surface_rawUse_doubled :
    ∃ c d, doubledDocument.catalog = .ok c ∧ c.find? "a.Doubled" = some d ∧
      c.membersOf (.plain "a.Doubled") = c.membersOf d.declaredType ∧
      c.surface (.named "a.Doubled" [.plain "int"]) = c.surface d.declaredType ∧
      (c.membersOf (.plain "a.Doubled")).map (fun e => (e.name, e.returns.text)) =
        [("own", "T"), ("other", "T"), ("first", "U"), ("second", "T[]")] ++
          (c.membersOf .object).map fun e => (e.name, e.returns.text) := by
  obtain ⟨c, hc, d, hd, hlength, hmembers⟩ := exists_of_eval doubledDocument.catalog
    (fun c => ∃ d ∈ c.find? "a.Doubled", [JavaType.plain "int"].length ≠ d.typeParams.length ∧
      (c.membersOf (.plain "a.Doubled")).map (fun e => (e.name, e.returns.text)) =
        [("own", "T"), ("other", "T"), ("first", "U"), ("second", "T[]")] ++
          (c.membersOf .object).map fun e => (e.name, e.returns.text))
    (by decide +kernel)
  obtain ⟨hraw, huse⟩ := surface_rawUse hc hd
  exact ⟨c, d, hc, hd, hraw, huse _ (.inr hlength), hmembers⟩

end Catalog

end BuilderPlanner
