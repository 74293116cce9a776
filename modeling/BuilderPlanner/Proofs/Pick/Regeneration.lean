import BuilderPlanner.Catalog.Load
import BuilderPlanner.Proofs.Declaration.Bindings
import BuilderPlanner.Proofs.JavaType.Variables
import BuilderPlanner.Proofs.Pick.FirstFit
import BuilderPlanner.Proofs.Success
import BuilderPlanner.Proofs.Surface.Reached

/-!
# Picks are stable under regeneration

A generated method may be part of the declarations of the next run, on the type that its name was
picked for. Its name is picked again then: the method is a member of the picked name that can be
overridden, and it takes nothing from what is known of other names.

* `Catalog.addMethod` — a declaration gets one more method, behind its others;
* `Catalog.find?_membersOf_addMethod_of_ne`, `Catalog.find?_membersOf_addMethod` — a surface changes
  at the signature of the new method at most;
* `pickName_eq_of_find?` — a pick stays if the member of its name becomes one that fits;
* `Catalog.pickName_regenerated` — so the pick that a method was generated for stays.
-/

namespace BuilderPlanner

/-! ### Generated methods -/

/-- The visibility of a method that is declared as picked. -/
def PickedVisibility.declared : PickedVisibility → Visibility
  | .everywhere => .everywhere
  | .package => .package

/-- A method as it is generated for a picked name. -/
structure Method.GeneratedFor (m : Method) (p : PickedName) (returns : JavaType) : Prop where
  name : m.name = p.name
  params : m.params = []
  typeParams : m.typeParams = []
  result : m.returns = returns
  visibility : m.visibility = p.visibility.declared

/-- A declaration with one more method, behind its others. -/
def Declaration.addMethod (d : Declaration) (m : Method) : Declaration :=
  { d with methods := d.methods ++ [m] }

/-- A method that is visible as picked is overridden with this visibility. -/
theorem overridable?_declared {returns : JavaType} {m : Member} {v : PickedVisibility}
    (hreturns : m.returns = returns) (hvisibility : m.visibility = v.declared) :
    m.overridable? returns = some v := by
  unfold Member.overridable?
  rw [hreturns, hvisibility]
  cases v with
  | everywhere => simp [PickedVisibility.declared]
  | package => simp [PickedVisibility.declared]

namespace Catalog

variable {c : Catalog} {d : Declaration} {m : Method} {t : JavaType}

/-- The catalog in which a declaration has one more method. -/
def addMethod (c : Catalog) (d : Declaration) (m : Method) : Catalog :=
  ⟨c.types.insert d.qualifiedName (d.addMethod m)⟩

theorem addMethod_eq : c.addMethod d m = c.withMethods d (d.methods ++ [m]) := rfl

/-! ### The walk -/

theorem ownMembers_addMethod (hd : c.find? d.qualifiedName = some d)
    (hn : t.name? = some d.qualifiedName) :
    (c.addMethod d m).ownMembers t =
      c.ownMembers t ++ [m.seenThrough (d.bindings t.args) d.qualifiedName] := by
  rw [addMethod_eq, ownMembers_withMethods hn, ownMembers_eq hn hd, List.map_append,
    List.map_singleton]

/-! ### The surface -/

/-- The type itself is visited first, and then its name is not visited again. -/
theorem Visits.eq_cons {rest us : List JavaType} {n : String} (hn : t.name? = some n)
    (hd : c.find? n = some d) (h : c.Visits (t :: rest) [] us) :
    ∃ vs, us = t :: vs ∧ ∀ v ∈ vs, v.name? ≠ some n := by
  cases h with
  | nameless hnone _ => simp [hn] at hnone
  | again _ hv _ => exact absurd hv List.not_mem_nil
  | undeclared hn' _ hnone _ =>
    obtain rfl := Option.some.inj (hn.symm.trans hn')
    simp [hd] at hnone
  | first hn' _ _ h =>
    obtain rfl := Option.some.inj (hn.symm.trans hn')
    refine ⟨_, rfl, fun v hv hname => ?_⟩
    obtain ⟨k, hk, hkv, -⟩ := h.declared v hv
    exact hkv (Option.some.inj (hk.symm.trans hname) ▸ List.mem_cons_self)

/-- The new method stands behind the methods of its type and before those that are inherited. -/
theorem exists_inherited (hd : c.find? d.qualifiedName = some d)
    (hn : t.name? = some d.qualifiedName) (m : Method) :
    ∃ inherited, ∀ s,
      (c.membersOf t).find? (·.signature = s) =
        (c.ownMembers t ++ inherited).find? (·.signature = s) ∧
      ((c.addMethod d m).membersOf t).find? (·.signature = s) =
        (c.ownMembers t ++ m.seenThrough (d.bindings t.args) d.qualifiedName ::
          inherited).find? (·.signature = s) := by
  obtain ⟨us, hus⟩ := c.exists_visits [t, .object] []
  have hdeclares : c.declares t = true := by simp [declares, hn, hd]
  have hdeclares' : (c.addMethod d m).declares t = true :=
    (declares_withMethods (d.methods ++ [m]) hd t).trans hdeclares
  have hus' : (c.addMethod d m).Visits [t, .object] [] us := hus.withMethods (d.methods ++ [m]) hd
  obtain ⟨vs, rfl, hvs⟩ := hus.eq_cons hn hd
  have hrest : vs.flatMap (c.addMethod d m).ownMembers = vs.flatMap c.ownMembers :=
    List.flatMap_congr fun v hv => ownMembers_withMethods_of_ne (d.methods ++ [m]) (hvs v hv)
  refine ⟨vs.flatMap c.ownMembers, fun s => ⟨?_, ?_⟩⟩
  · rw [hus.find?_membersOf hdeclares, List.flatMap_cons]
  · rw [hus'.find?_membersOf hdeclares', List.flatMap_cons, hrest, ownMembers_addMethod hd hn,
      List.append_assoc, List.singleton_append]

/-- A surface stays as it is at other signatures than that of the new method. -/
theorem find?_membersOf_addMethod_of_ne (hd : c.find? d.qualifiedName = some d)
    (hn : t.name? = some d.qualifiedName) {s : String × List String}
    (hs : (m.seenThrough (d.bindings t.args) d.qualifiedName).signature ≠ s) :
    ((c.addMethod d m).membersOf t).find? (·.signature = s) =
      (c.membersOf t).find? (·.signature = s) := by
  obtain ⟨inherited, h⟩ := exists_inherited hd hn m
  rw [(h s).1, (h s).2, List.find?_append, List.find?_append,
    List.find?_cons_of_neg (by simpa using hs)]

/-- At the signature of the new method another method of its type comes before it, or else it hides
what is inherited. -/
theorem find?_membersOf_addMethod (hd : c.find? d.qualifiedName = some d)
    (hn : t.name? = some d.qualifiedName) {s : String × List String}
    (hs : (m.seenThrough (d.bindings t.args) d.qualifiedName).signature = s) :
    (∃ own, (c.membersOf t).find? (·.signature = s) = some own ∧
        ((c.addMethod d m).membersOf t).find? (·.signature = s) = some own) ∨
      ((c.addMethod d m).membersOf t).find? (·.signature = s) =
        some (m.seenThrough (d.bindings t.args) d.qualifiedName) := by
  obtain ⟨inherited, h⟩ := exists_inherited hd hn m
  rw [(h s).1, (h s).2, List.find?_append, List.find?_append]
  cases (c.ownMembers t).find? (·.signature = s) with
  | some own => exact .inl ⟨own, rfl, rfl⟩
  | none =>
    rw [Option.none_or, List.find?_cons_of_pos (by simpa using hs)]
    exact .inr rfl

end Catalog

/-! ### Picks among changed members -/

variable {members members' : List Member} {returns : JavaType} {preferred n : String}

/-- A name is blocked by the member without parameters that has it. -/
theorem blocked_iff_find? (h : (members.map Member.signature).Nodup) :
    Blocked (parameterless members) returns n ↔
      ∃ m, members.find? (·.signature = (n, [])) = some m ∧ m.overridable? returns = none := by
  constructor
  · intro hb
    obtain ⟨m, hm, hname, hunfit⟩ := hb
    exact ⟨m, (mem_parameterless_iff_find? h).1 ⟨hm, hname⟩, overridable?_eq_none_iff.2 hunfit⟩
  · intro hb
    obtain ⟨m, hfind, hunfit⟩ := hb
    obtain ⟨hm, hname⟩ := (mem_parameterless_iff_find? h).2 hfind
    exact ⟨m, hm, hname, overridable?_eq_none_iff.1 hunfit⟩

theorem pickName_of_find? {m : Member} {v : PickedVisibility}
    (hfind : members.find? (·.signature = (preferred, [])) = some m)
    (hv : m.overridable? returns = some v) :
    pickName members returns preferred = ⟨preferred, v⟩ := by
  rw [pickName, find?_parameterless, hfind]
  simp only [hv]

/-- A name that is not blocked is picked. -/
theorem name_pickName (h : (members.map Member.signature).Nodup)
    (hb : ¬Blocked (parameterless members) returns preferred) :
    (pickName members returns preferred).name = preferred := by
  cases hfind : members.find? (·.signature = (preferred, [])) with
  | none =>
    rw [pickName, find?_parameterless, hfind]
  | some m =>
    have hfits : m.overridable? returns ≠ none := fun hnone =>
      hb ((blocked_iff_find? h).2 ⟨m, hfind, hnone⟩)
    obtain ⟨v, hv⟩ := Option.ne_none_iff_exists'.1 hfits
    rw [pickName_of_find? hfind hv]

/-- Which alternative is picked depends on the blocked names only. -/
theorem pickName_eq_of_blocked (h : (members.map Member.signature).Nodup)
    (h' : (members'.map Member.signature).Nodup)
    (hb : Blocked (parameterless members) returns preferred)
    (hsame : ∀ n, Blocked (parameterless members') returns n ↔
      Blocked (parameterless members) returns n) :
    pickName members' returns preferred = pickName members returns preferred := by
  have hb' := (hsame preferred).2 hb
  have hnumbers : openNumbers (parameterless members') returns preferred =
      openNumbers (parameterless members) returns preferred :=
    Set.ext fun k => and_congr_right fun _ => not_congr (hsame (alternativeName preferred k))
  have hleast := (isLeast_firstOpen hb).1
  have hleast' := (isLeast_firstOpen hb').1
  rw [hnumbers] at hleast'
  rw [pickName_moved (nodup_name_parameterless h) hb,
    pickName_moved (nodup_name_parameterless h') hb', hleast'.unique hleast]

/-- A pick stays if no other name gets a different member, and the picked one keeps its member or
gets one that is overridden as picked. -/
theorem pickName_eq_of_find? (h : (members.map Member.signature).Nodup)
    (h' : (members'.map Member.signature).Nodup)
    (hother : ∀ n, n ≠ (pickName members returns preferred).name →
      members'.find? (·.signature = (n, [])) = members.find? (·.signature = (n, [])))
    (hpicked : ∃ m,
      members'.find? (·.signature = ((pickName members returns preferred).name, [])) = some m ∧
        (members.find? (·.signature = ((pickName members returns preferred).name, [])) = some m ∨
          m.overridable? returns = some (pickName members returns preferred).visibility)) :
    pickName members' returns preferred = pickName members returns preferred := by
  obtain ⟨m, hm', hm⟩ := hpicked
  by_cases hb : Blocked (parameterless members) returns preferred
  · -- the picked name was open and is open still, all others are blocked as before
    refine pickName_eq_of_blocked h h' hb fun n => ?_
    have hopen := (isLeast_firstOpen hb).1.1.2
    rw [pickName_moved (nodup_name_parameterless h) hb] at hother hm' hm
    rw [blocked_iff_find? h] at hopen
    rw [blocked_iff_find? h, blocked_iff_find? h']
    by_cases hn : n = alternativeName preferred (firstOpen preferred (blockedNames members returns))
    · subst hn
      refine iff_of_false (fun hblocked => ?_) hopen
      obtain ⟨m', hfind, hunfit⟩ := hblocked
      obtain rfl := Option.some.inj (hm'.symm.trans hfind)
      rcases hm with hm | hm
      · exact hopen ⟨m, hm, hunfit⟩
      · simp [hunfit] at hm
    · rw [hother n hn]
  · have hname := name_pickName h hb
    rw [hname] at hm' hm
    rcases hm with hm | hm
    · have hfits : m.overridable? returns ≠ none := fun hnone =>
        hb ((blocked_iff_find? h).2 ⟨m, hm, hnone⟩)
      obtain ⟨v, hv⟩ := Option.ne_none_iff_exists'.1 hfits
      rw [pickName_of_find? hm' hv, pickName_of_find? hm hv]
    · rw [pickName_of_find? hm' hm]
      exact congrArg (PickedName.mk · _) hname.symm

/-! ### Picks on a type with its generated method -/

namespace Catalog

/-- A generated method is seen on its type as it is declared: its result is seen through the
parameters of the declaration themselves or through none. -/
theorem overridable?_seenThrough {d : Declaration} {m : Method} {p : PickedName}
    (hm : m.GeneratedFor p returns) {args : List JavaType}
    (hargs : args = [] ∨ args = d.typeParams.map .var) (owner : String) :
    (m.seenThrough (d.bindings args) owner).overridable? returns = some p.visibility := by
  refine overridable?_declared ?_ hm.visibility
  show m.returns.substitute ((d.bindings args).without m.typeParams).lookup = returns
  rw [hm.typeParams, Bindings.without_nil, hm.result]
  exact JavaType.substitute_eq_self fun x _ => Declaration.substitute_var_bindings hargs x

/-- **A pick is stable under regeneration.** Let a name be picked on a declared type, as its own
members see it or without type arguments, and let the generated method be declared there, behind the
other methods. Then the same name is picked with the same visibility. -/
theorem pickName_regenerated {c : Catalog} {d : Declaration} (hd : c.find? d.qualifiedName = some d)
    {target : JavaType} (htarget : target = d.declaredType ∨ target = .plain d.qualifiedName)
    (returns : JavaType) (preferred : String) {m : Method}
    (hm : m.GeneratedFor (c.pickName target returns preferred) returns) :
    (c.addMethod d m).pickName target returns preferred = c.pickName target returns preferred := by
  have hn : target.name? = some d.qualifiedName := by
    rcases htarget with rfl | rfl <;> rfl
  have hargs : target.args = [] ∨ target.args = d.typeParams.map .var := by
    rcases htarget with rfl | rfl
    · exact .inr rfl
    · exact .inl rfl
  have hsignature : ∀ n, (m.seenThrough (d.bindings target.args) d.qualifiedName).signature =
      (n, []) ↔ n = (c.pickName target returns preferred).name := by
    intro n
    rw [signature_eq_iff, ← hm.name]
    simp [Method.seenThrough, hm.params, eq_comm]
  refine pickName_eq_of_find? (c.nodup_signature_membersOf target)
    ((c.addMethod d m).nodup_signature_membersOf target) ?_ ?_
  · intro n hne
    exact find?_membersOf_addMethod_of_ne hd hn fun heq => hne ((hsignature n).1 heq)
  · rcases find?_membersOf_addMethod (m := m) hd hn ((hsignature _).2 rfl) with
      ⟨own, hown, hown'⟩ | hnew
    · exact ⟨own, hown', .inl hown⟩
    · exact ⟨_, hnew, .inr (overridable?_seenThrough hm hargs d.qualifiedName)⟩

/-- A generic type that inherits a method with another result. -/
def boxDocument : Document where
  types := .ofList [
    ("a.Base", { methods := [{ name := "value", returns := "int" }] }),
    ("a.Box", { typeParams := ["T"], supertypes := ["a.Base"] })]

/-- The inherited method cannot be overridden, so the generated one has another name. It keeps this
name once it is declared. -/
theorem pickName_of_boxDocument :
    ∃ c d m, boxDocument.catalog = .ok c ∧ c.find? "a.Box" = some d ∧
      m.GeneratedFor (c.pickName d.declaredType (.var "T") "value") (.var "T") ∧
      c.pickName d.declaredType (.var "T") "value" = ⟨"_valueImpl", .package⟩ ∧
      (c.addMethod d m).pickName d.declaredType (.var "T") "value" = ⟨"_valueImpl", .package⟩ := by
  obtain ⟨c, hc, d, hd, hname, hpick⟩ := exists_of_eval boxDocument.catalog
    (fun c => ∃ d ∈ c.find? "a.Box", d.qualifiedName = "a.Box" ∧
      c.pickName d.declaredType (.var "T") "value" = ⟨"_valueImpl", .package⟩)
    (by decide +kernel)
  let m : Method := ⟨"_valueImpl", [], .var "T", [], .package, [], false⟩
  have hm : m.GeneratedFor (c.pickName d.declaredType (.var "T") "value") (.var "T") := by
    rw [hpick]
    exact ⟨rfl, rfl, rfl, rfl, rfl⟩
  refine ⟨c, d, m, hc, hd, hm, hpick, ?_⟩
  rw [pickName_regenerated (hname ▸ hd) (.inl rfl) (.var "T") "value" hm, hpick]

end Catalog

end BuilderPlanner
