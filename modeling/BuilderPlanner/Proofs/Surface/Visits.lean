import BuilderPlanner.Catalog.Surface
import BuilderPlanner.Proofs.NameMap

/-!
# The visits of a walk

A walk has two sides: which types it visits, in which order, and what it makes of their methods.

* `Catalog.Visits` — the types that a walk visits, each seen through the type arguments of its
  first visit;
* `Catalog.exists_visits` — every walk has its visits;
* `Catalog.Visits.congr_catalog` — they depend on what is declared, with which supertypes;
* `Catalog.Visits.members_walk` — the members of a walk are those of the visited types, in order, of
  each signature the first (`find?_foldl_addMember`) and only that (`nodup_foldl_addMember`);
* `Catalog.Visits.membersOf_eq` — the same for the members of a declared type;
* `Catalog.redeclare` — catalogs that differ in one declaration;
* `Catalog.withMethods` — catalogs that differ in the methods of one, and so are walked in the same
  way (`Catalog.Visits.withMethods`).
-/

namespace BuilderPlanner

/-! ### Of each signature the first -/

theorem nodup_addMember {members : List Member} (h : (members.map Member.signature).Nodup)
    (m : Member) : ((addMember members m).map Member.signature).Nodup := by
  unfold addMember
  split
  · exact h
  · rename_i hany
    rw [List.map_append, List.map_singleton, List.nodup_append]
    refine ⟨h, List.nodup_cons.2 ⟨List.not_mem_nil, List.nodup_nil⟩, ?_⟩
    intro s hs s' hs' heq
    obtain ⟨m', hm', hm's⟩ := List.mem_map.1 hs
    rw [List.mem_singleton.1 hs'] at heq
    exact hany (List.any_eq_true.2 ⟨m', hm', decide_eq_true (hm's.trans heq)⟩)

/-- No two members have the same signature. -/
theorem nodup_foldl_addMember (ms : List Member) {members : List Member}
    (h : (members.map Member.signature).Nodup) :
    ((ms.foldl addMember members).map Member.signature).Nodup := by
  induction ms generalizing members with
  | nil => exact h
  | cons m ms ih => exact ih (nodup_addMember h m)

/-- The member of a signature is the first of all that were to be added. -/
theorem find?_foldl_addMember (ms members : List Member) (s : String × List String) :
    (ms.foldl addMember members).find? (·.signature = s) =
      (members ++ ms).find? (·.signature = s) := by
  induction ms generalizing members with
  | nil => rw [List.foldl_nil, List.append_nil]
  | cons m ms ih =>
    rw [List.foldl_cons, ih]
    unfold addMember
    split
    · rename_i hany
      -- a member of the signature is there already, so `m` is not the first
      by_cases hs : m.signature = s
      · have hsome : (members.find? (·.signature = s)).isSome = true := by
          rw [List.find?_isSome]
          simpa [hs] using hany
        obtain ⟨m', hm'⟩ := Option.isSome_iff_exists.1 hsome
        rw [List.find?_append, List.find?_append, hm', Option.some_or, Option.some_or]
      · rw [List.find?_append, List.find?_append, List.find?_cons_of_neg (by simpa using hs)]
    · rw [List.append_assoc, List.singleton_append]

/-- Which members are kept depends on their signatures only. -/
theorem map_signature_addMember {members members' : List Member} {m m' : Member}
    (h : members.map Member.signature = members'.map Member.signature)
    (hm : m.signature = m'.signature) :
    (addMember members m).map Member.signature = (addMember members' m').map Member.signature := by
  have hany : ∀ members : List Member, members.any (·.signature = m.signature) =
      (members.map Member.signature).any (· = m.signature) := by
    intro members
    rw [List.any_map]
    rfl
  unfold addMember
  rw [← hm, hany members, hany members', h]
  split
  · exact h
  · rw [List.map_append, List.map_append, h, List.map_singleton, List.map_singleton, hm]

theorem map_signature_foldl_addMember {ms ms' members members' : List Member}
    (hms : ms.map Member.signature = ms'.map Member.signature)
    (h : members.map Member.signature = members'.map Member.signature) :
    (ms.foldl addMember members).map Member.signature =
      (ms'.foldl addMember members').map Member.signature := by
  induction ms generalizing ms' members members' with
  | nil =>
    obtain rfl := List.map_eq_nil_iff.1 hms.symm
    exact h
  | cons m ms ih =>
    obtain ⟨m', rest, rfl, hm, hrest⟩ := List.map_eq_cons_iff.1 hms.symm
    rw [List.foldl_cons, List.foldl_cons]
    exact ih hrest.symm (map_signature_addMember h hm.symm)

namespace Catalog

/-! ### One visit -/

/-- The supertypes that a type has by its declaration, seen through its type arguments. -/
def supertypesOf (c : Catalog) (t : JavaType) : List JavaType :=
  match t.name?.bind c.find? with
  | none => []
  | some d => d.supertypes.map (JavaType.substitute (d.bindings t.args).lookup)

/-- The methods that the declaration of a type itself has, seen through its type arguments. -/
def ownMembers (c : Catalog) (t : JavaType) : List Member :=
  match t.name?.bind c.find? with
  | none => []
  | some d => d.methods.map (Method.seenThrough (d.bindings t.args) d.qualifiedName)

theorem supertypesOf_eq {c : Catalog} {t : JavaType} {n : String} {d : Declaration}
    (hn : t.name? = some n) (hd : c.find? n = some d) :
    c.supertypesOf t = d.supertypes.map (JavaType.substitute (d.bindings t.args).lookup) := by
  simp [supertypesOf, hn, hd]

theorem ownMembers_eq {c : Catalog} {t : JavaType} {n : String} {d : Declaration}
    (hn : t.name? = some n) (hd : c.find? n = some d) :
    c.ownMembers t = d.methods.map (Method.seenThrough (d.bindings t.args) d.qualifiedName) := by
  simp [ownMembers, hn, hd]

/-! ### All visits -/

/-- The types that a walk visits, when `pending` are still to come and the names `visited` are
not to be visited again. -/
inductive Visits (c : Catalog) : List JavaType → List String → List JavaType → Prop
  | done (visited : List String) : Visits c [] visited []
  /-- A type that is not a class or interface. -/
  | nameless {t : JavaType} {rest us : List JavaType} {visited : List String}
      (hn : t.name? = none) (h : Visits c rest visited us) : Visits c (t :: rest) visited us
  | again {t : JavaType} {rest us : List JavaType} {visited : List String} {n : String}
      (hn : t.name? = some n) (hv : n ∈ visited) (h : Visits c rest visited us) :
      Visits c (t :: rest) visited us
  | undeclared {t : JavaType} {rest us : List JavaType} {visited : List String} {n : String}
      (hn : t.name? = some n) (hv : n ∉ visited) (hd : c.find? n = none)
      (h : Visits c rest (n :: visited) us) : Visits c (t :: rest) visited us
  | first {t : JavaType} {rest us : List JavaType} {visited : List String} {n : String}
      {d : Declaration} (hn : t.name? = some n) (hv : n ∉ visited) (hd : c.find? n = some d)
      (h : Visits c (c.supertypesOf t ++ rest) (n :: visited) us) :
      Visits c (t :: rest) visited (t :: us)

theorem walk_nameless {c : Catalog} {t : JavaType} (hn : t.name? = none) (rest : List JavaType)
    (visited : List String) (s : Surface) :
    c.walk (t :: rest) visited s = c.walk rest visited s := by
  rw [walk]
  simp only [hn]

theorem walk_again {c : Catalog} {t : JavaType} {n : String} {visited : List String}
    (hn : t.name? = some n) (hv : n ∈ visited) (rest : List JavaType) (s : Surface) :
    c.walk (t :: rest) visited s = c.walk rest visited s := by
  rw [walk]
  simp only [hn, List.contains_iff_mem, hv, ↓reduceDIte]

theorem walk_undeclared {c : Catalog} {t : JavaType} {n : String} {visited : List String}
    (hn : t.name? = some n) (hv : n ∉ visited) (hd : c.find? n = none) (rest : List JavaType)
    (s : Surface) :
    c.walk (t :: rest) visited s =
      c.walk rest (n :: visited) { s with undeclared := s.undeclared ++ [t] } := by
  rw [walk]
  simp only [hn, List.contains_iff_mem, hv, ↓reduceDIte]
  split
  · rfl
  · rename_i d hd' hattach
    exact absurd (hd ▸ hd') (by simp)

theorem walk_first {c : Catalog} {t : JavaType} {n : String} {d : Declaration}
    {visited : List String} (hn : t.name? = some n) (hv : n ∉ visited) (hd : c.find? n = some d)
    (rest : List JavaType) (s : Surface) :
    c.walk (t :: rest) visited s =
      c.walk (c.supertypesOf t ++ rest) (n :: visited)
        { s with members := (c.ownMembers t).foldl addMember s.members } := by
  rw [walk, supertypesOf_eq hn hd, ownMembers_eq hn hd]
  simp only [hn, List.contains_iff_mem, hv, ↓reduceDIte]
  split
  · rename_i hattach
    exact absurd (Option.attach_eq_none_iff.1 hattach) (by simp [hd])
  · rename_i d' hd' hattach
    have heq : d' = d := Option.some.inj (hd'.symm.trans hd)
    subst heq
    rfl

theorem exists_visits (c : Catalog) (pending : List JavaType) (visited : List String) :
    ∃ us, c.Visits pending visited us := by
  -- the surface is only carried along, so any will do for the induction on the walk
  induction pending, visited, (⟨[], []⟩ : Surface) using walk.induct c with
  | case1 visited s => exact ⟨[], .done visited⟩
  | case2 visited s t rest hn ih =>
    obtain ⟨us, hus⟩ := ih
    exact ⟨us, .nameless hn hus⟩
  | case3 visited s t rest n hn hv ih =>
    obtain ⟨us, hus⟩ := ih
    exact ⟨us, .again hn (List.contains_iff_mem.1 hv) hus⟩
  | case4 visited s t rest n hn hv hd ih =>
    obtain ⟨us, hus⟩ := ih
    have hv : n ∉ visited := fun h => hv (List.contains_iff_mem.2 h)
    exact ⟨us, .undeclared hn hv (Option.attach_eq_none_iff.1 hd) hus⟩
  | case5 visited s t rest n hn hv d hd hattach b own ih =>
    obtain ⟨us, hus⟩ := ih
    have hv : n ∉ visited := fun h => hv (List.contains_iff_mem.2 h)
    exact ⟨t :: us, .first hn hv hd (by rwa [supertypesOf_eq hn hd])⟩

theorem declares_eq_isSome (c : Catalog) (t : JavaType) :
    c.declares t = (t.name?.bind c.find?).isSome := by
  unfold declares
  cases t.name? with
  | none => rfl
  | some n => rfl

theorem declares_eq {c : Catalog} {t : JavaType} {n : String} (hn : t.name? = some n) :
    c.declares t = (c.find? n).isSome := by
  rw [declares_eq_isSome, hn]
  rfl

/-- Two catalogs walk the same way if they declare the same types with the same supertypes. It is
enough that they do so for the types that have a property which is passed on to supertypes. -/
theorem Visits.congr_catalog {c c' : Catalog} {P : JavaType → Prop}
    (hpassed : ∀ t, P t → ∀ s ∈ c.supertypesOf t, P s)
    (hdeclares : ∀ t, P t → c'.declares t = c.declares t)
    (hsupertypes : ∀ t, P t → c'.supertypesOf t = c.supertypesOf t)
    {pending us : List JavaType} {visited : List String} (h : c.Visits pending visited us)
    (hpending : ∀ t ∈ pending, P t) : c'.Visits pending visited us := by
  induction h with
  | done visited => exact .done visited
  | nameless hn _ ih => exact .nameless hn (ih (List.forall_mem_cons.1 hpending).2)
  | again hn hv _ ih => exact .again hn hv (ih (List.forall_mem_cons.1 hpending).2)
  | undeclared hn hv hd _ ih =>
    obtain ⟨ht, hrest⟩ := List.forall_mem_cons.1 hpending
    have hsame := hdeclares _ ht
    rw [declares_eq hn, declares_eq hn, hd] at hsame
    have hd' := Option.isNone_iff_eq_none.1 (Option.isSome_eq_false_iff.1 hsame)
    exact .undeclared hn hv hd' (ih hrest)
  | first hn hv hd _ ih =>
    obtain ⟨ht, hrest⟩ := List.forall_mem_cons.1 hpending
    have hsame := hdeclares _ ht
    rw [declares_eq hn, declares_eq hn, hd] at hsame
    obtain ⟨d', hd'⟩ := Option.isSome_iff_exists.1 hsame
    refine .first hn hv hd' ?_
    rw [hsupertypes _ ht]
    exact ih (List.forall_mem_append.2 ⟨hpassed _ ht, hrest⟩)

/-- The members of a walk come from the types that it visits. -/
theorem Visits.members_walk {c : Catalog} {pending us : List JavaType} {visited : List String}
    (h : c.Visits pending visited us) (s : Surface) :
    (c.walk pending visited s).members = (us.flatMap c.ownMembers).foldl addMember s.members := by
  induction h generalizing s with
  | done visited => rw [walk, List.flatMap_nil, List.foldl_nil]
  | nameless hn _ ih => rw [walk_nameless hn, ih]
  | again hn hv _ ih => rw [walk_again hn hv, ih]
  | undeclared hn hv hd _ ih => rw [walk_undeclared hn hv hd, ih]
  | first hn hv hd _ ih =>
    rw [walk_first hn hv hd, ih, List.flatMap_cons, List.foldl_append]

/-- The root class is visited last. -/
theorem Visits.membersOf_eq {c : Catalog} {t : JavaType} {us : List JavaType}
    (ht : c.declares t = true) (h : c.Visits [t, .object] [] us) :
    c.membersOf t = (us.flatMap c.ownMembers).foldl addMember [] := by
  rw [membersOf, surface, if_pos ht, h.members_walk]

theorem Visits.find?_membersOf {c : Catalog} {t : JavaType} {us : List JavaType}
    (ht : c.declares t = true) (h : c.Visits [t, .object] [] us)
    (signature : String × List String) :
    (c.membersOf t).find? (·.signature = signature) =
      (us.flatMap c.ownMembers).find? (·.signature = signature) := by
  rw [h.membersOf_eq ht, find?_foldl_addMember, List.nil_append]

theorem membersOf_eq_nil {c : Catalog} {t : JavaType} (h : ¬c.declares t = true) :
    c.membersOf t = [] := by
  rw [membersOf, surface, if_neg h]

theorem nodup_signature_membersOf (c : Catalog) (t : JavaType) :
    ((c.membersOf t).map Member.signature).Nodup := by
  by_cases h : c.declares t = true
  · obtain ⟨us, hus⟩ := c.exists_visits [t, .object] []
    rw [hus.membersOf_eq h]
    exact nodup_foldl_addMember _ List.nodup_nil
  · rw [membersOf_eq_nil h]
    exact List.nodup_nil

/-! ### Catalogs that differ in one declaration -/

/-- The catalog in which a declaration takes the place of the one of its name. -/
def redeclare (c : Catalog) (d : Declaration) : Catalog := ⟨c.types.insert d.qualifiedName d⟩

section

variable {c : Catalog} {d : Declaration} {t : JavaType}

theorem find?_redeclare_self : (c.redeclare d).find? d.qualifiedName = some d :=
  NameMap.find?_insert_self c.types d.qualifiedName d

theorem find?_redeclare_of_ne {n : String} (hn : n ≠ d.qualifiedName) :
    (c.redeclare d).find? n = c.find? n :=
  NameMap.find?_insert_of_ne c.types hn d

theorem bind_redeclare_of_ne (hn : t.name? ≠ some d.qualifiedName) :
    t.name?.bind (c.redeclare d).find? = t.name?.bind c.find? := by
  refine Option.bind_congr fun n hname => find?_redeclare_of_ne fun heq => ?_
  exact hn (heq ▸ hname)

theorem supertypesOf_redeclare_of_ne (hn : t.name? ≠ some d.qualifiedName) :
    (c.redeclare d).supertypesOf t = c.supertypesOf t := by
  unfold supertypesOf
  rw [bind_redeclare_of_ne hn]

theorem ownMembers_redeclare_of_ne (hn : t.name? ≠ some d.qualifiedName) :
    (c.redeclare d).ownMembers t = c.ownMembers t := by
  unfold ownMembers
  rw [bind_redeclare_of_ne hn]

/-- No type is declared in addition if the name was declared. -/
theorem declares_redeclare (hd : (c.find? d.qualifiedName).isSome = true) (t : JavaType) :
    (c.redeclare d).declares t = c.declares t := by
  by_cases hn : t.name? = some d.qualifiedName
  · rw [declares_eq hn, declares_eq hn, find?_redeclare_self, hd]
    rfl
  · rw [declares_eq_isSome, declares_eq_isSome, bind_redeclare_of_ne hn]

/-! ### Catalogs that differ in the methods of one declaration -/

/-- The catalog in which a declaration has other methods. -/
def withMethods (c : Catalog) (d : Declaration) (ms : List Method) : Catalog :=
  c.redeclare { d with methods := ms }

variable {ms : List Method}

theorem find?_withMethods_self :
    (c.withMethods d ms).find? d.qualifiedName = some { d with methods := ms } :=
  find?_redeclare_self (d := { d with methods := ms })

theorem declares_withMethods (ms : List Method) (hd : c.find? d.qualifiedName = some d)
    (t : JavaType) : (c.withMethods d ms).declares t = c.declares t :=
  declares_redeclare (d := { d with methods := ms }) (Option.isSome_of_eq_some hd) t

theorem supertypesOf_withMethods (hd : c.find? d.qualifiedName = some d) (t : JavaType) :
    (c.withMethods d ms).supertypesOf t = c.supertypesOf t := by
  by_cases hn : t.name? = some d.qualifiedName
  · rw [supertypesOf_eq hn find?_withMethods_self, supertypesOf_eq hn hd]
    rfl
  · exact supertypesOf_redeclare_of_ne (d := { d with methods := ms }) hn

theorem ownMembers_withMethods (hn : t.name? = some d.qualifiedName) :
    (c.withMethods d ms).ownMembers t =
      ms.map (Method.seenThrough (d.bindings t.args) d.qualifiedName) :=
  ownMembers_eq hn find?_withMethods_self

theorem ownMembers_withMethods_of_ne (ms : List Method) (hn : t.name? ≠ some d.qualifiedName) :
    (c.withMethods d ms).ownMembers t = c.ownMembers t :=
  ownMembers_redeclare_of_ne (d := { d with methods := ms }) hn

/-- The methods of a declaration do not bear on the types that a walk visits. -/
theorem Visits.withMethods {pending us : List JavaType} {visited : List String}
    (ms : List Method) (hd : c.find? d.qualifiedName = some d) (h : c.Visits pending visited us) :
    (c.withMethods d ms).Visits pending visited us :=
  h.congr_catalog (P := fun _ => True) (fun _ _ _ _ => trivial)
    (fun t _ => declares_withMethods ms hd t) (fun t _ => supertypesOf_withMethods hd t)
    fun _ _ => trivial

end

end Catalog

end BuilderPlanner
