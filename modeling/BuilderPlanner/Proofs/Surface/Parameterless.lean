import BuilderPlanner.Catalog.Pick
import BuilderPlanner.Proofs.NameMap
import BuilderPlanner.Proofs.Surface.Visits

/-!
# Members without parameters

* `signature_eq_iff` — members without parameters are those whose signature is a name alone;
* `nodup_name_membersOf` — a type has at most one of each name;
* `mem_parameterless_iff_find?` — it is the one that a search for its signature finds;
* `parameterless_foldl_addMember` — members with parameters do not get in the way of others.
-/

namespace BuilderPlanner

theorem mem_parameterless {members : List Member} {m : Member} :
    m ∈ parameterless members ↔ m ∈ members ∧ m.params = [] := by
  rw [parameterless, List.mem_filter, List.isEmpty_iff]

theorem signature_eq_iff {m : Member} {name : String} :
    m.signature = (name, []) ↔ m.name = name ∧ m.params = [] := by
  rw [Member.signature, Prod.mk.injEq, List.map_eq_nil_iff]

/-- Members without parameters differ in their names as soon as they differ in their signatures. -/
theorem nodup_name_parameterless {members : List Member}
    (h : (members.map Member.signature).Nodup) :
    ((parameterless members).map Member.name).Nodup := by
  have hsub : ((parameterless members).map Member.signature).Nodup :=
    h.sublist ((List.filter_sublist).map _)
  have hsig : (parameterless members).map Member.signature =
      ((parameterless members).map Member.name).map fun n => (n, []) := by
    rw [List.map_map]
    apply List.map_congr_left
    intro m hm
    exact signature_eq_iff.2 ⟨rfl, (mem_parameterless.1 hm).2⟩
  exact List.Nodup.of_map _ (hsig ▸ hsub)

theorem eq_of_name_eq {members : List Member} (h : (members.map Member.name).Nodup) {m m' : Member}
    (hm : m ∈ members) (hm' : m' ∈ members) (hname : m.name = m'.name) : m = m' :=
  List.inj_on_of_nodup_map h hm hm' hname

/-- A type has at most one member without parameters of a name. -/
theorem nodup_name_membersOf (c : Catalog) (t : JavaType) :
    ((parameterless (c.membersOf t)).map Member.name).Nodup :=
  nodup_name_parameterless (c.nodup_signature_membersOf t)

/-- A search for a name among the members without parameters is a search for a signature. -/
theorem find?_parameterless (members : List Member) (name : String) :
    (parameterless members).find? (·.name = name) =
      members.find? (·.signature = (name, [])) := by
  rw [parameterless, List.find?_filter]
  congr 1
  funext m
  simp [signature_eq_iff, and_comm]

/-- The member without parameters of a name is the one that a search for its signature finds. -/
theorem mem_parameterless_iff_find? {members : List Member}
    (h : (members.map Member.signature).Nodup) {m : Member} {name : String} :
    m ∈ parameterless members ∧ m.name = name ↔
      members.find? (·.signature = (name, [])) = some m := by
  rw [← find?_parameterless, find?_key_eq_some_iff (nodup_name_parameterless h)]

/-! ### Members with parameters among others -/

theorem parameterless_append (ms members : List Member) :
    parameterless (ms ++ members) = parameterless ms ++ parameterless members := by
  rw [parameterless, List.filter_append]
  rfl

theorem parameterless_map_seenThrough (ms : List Method) (b : Bindings) (owner : String) :
    parameterless (ms.map (Method.seenThrough b owner)) =
      (ms.filter (·.params.isEmpty)).map (Method.seenThrough b owner) := by
  rw [parameterless, List.filter_map]
  congr 2
  funext m
  simp [Method.seenThrough]

@[simp]
theorem parameterless_parameterless (members : List Member) :
    parameterless (parameterless members) = parameterless members := by
  rw [parameterless, parameterless, List.filter_filter]
  simp

/-- Only a member without parameters can have the signature of one. -/
theorem any_signature_parameterless {m : Member} (h : m.params = []) (members : List Member) :
    (parameterless members).any (·.signature = m.signature) =
      members.any (·.signature = m.signature) := by
  have hsignature : m.signature = (m.name, []) := signature_eq_iff.2 ⟨rfl, h⟩
  rw [parameterless, List.any_filter, hsignature]
  congr 1
  funext m'
  by_cases hm' : m'.signature = (m.name, [])
  · simp [hm', (signature_eq_iff.1 hm').2]
  · simp [hm']

theorem parameterless_addMember {m : Member} (h : m.params = []) (members : List Member) :
    parameterless (addMember members m) = addMember (parameterless members) m := by
  unfold addMember
  rw [any_signature_parameterless h]
  split
  · rfl
  · rw [parameterless_append]
    simp [parameterless, h]

theorem parameterless_addMember_of_ne_nil {m : Member} (h : m.params ≠ [])
    (members : List Member) : parameterless (addMember members m) = parameterless members := by
  unfold addMember
  split
  · rfl
  · rw [parameterless_append]
    simp [parameterless, h]

/-- Members with parameters do not get in the way of others. -/
theorem parameterless_foldl_addMember (ms members : List Member) :
    parameterless (ms.foldl addMember members) =
      (parameterless ms).foldl addMember (parameterless members) := by
  induction ms generalizing members with
  | nil => rfl
  | cons m ms ih =>
    rw [List.foldl_cons, ih]
    by_cases h : m.params = []
    · have hms : parameterless (m :: ms) = m :: parameterless ms := by simp [parameterless, h]
      rw [hms, List.foldl_cons, parameterless_addMember h]
    · have hms : parameterless (m :: ms) = parameterless ms := by simp [parameterless, h]
      rw [hms, parameterless_addMember_of_ne_nil h]

end BuilderPlanner
