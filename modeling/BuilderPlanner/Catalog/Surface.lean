import BuilderPlanner.Catalog.Basic

/-!
# Surfaces

The surface of a type is the list of the methods that can be called on it: its own, then those of
its supertypes in depth-first order, and last those of the root class. Each is seen through the type
arguments along the way. Of methods with the same signature only the first is kept.

* `Member` — a method of a surface, and `Member.signature`;
* `Catalog.walk` — visits the types that are still pending, each name once;
* `Catalog.surface` — the members of a type, with the supertypes that are not declared.
-/

namespace BuilderPlanner

/-- A method as seen on a type. -/
structure Member where
  name : String
  /-- The qualified name of the type that declares the method. -/
  declaredIn : String
  params : List JavaType
  returns : JavaType
  visibility : Visibility
  modifiers : List Modifier
  isAbstract : Bool
  deriving DecidableEq, Repr

namespace Member

/-- Whether a method belongs to the type and not to its instances. -/
def isStatic (m : Member) : Bool := m.modifiers.contains .isStatic

/-- The name with the erased parameter types. Methods of the same signature override each other. -/
def signature (m : Member) : String × List String := (m.name, m.params.map JavaType.erasure)

end Member

/-- A method seen through bindings of the parameters of its type. The parameters that the method
itself declares hide those of the same names. -/
def Method.seenThrough (b : Bindings) (owner : String) (m : Method) : Member :=
  let σ := (b.without m.typeParams).lookup
  { name := m.name
    declaredIn := owner
    params := m.params.map (JavaType.substitute σ)
    returns := m.returns.substitute σ
    visibility := m.visibility
    modifiers := m.modifiers
    isAbstract := m.isAbstract }

/-- Adds a member unless one of the same signature is there. -/
def addMember (members : List Member) (m : Member) : List Member :=
  if members.any (·.signature = m.signature) then members else members ++ [m]

/-- The members of a type, and the supertypes of it that are not declared. -/
structure Surface where
  members : List Member
  undeclared : List JavaType

/-! ### A bound on the walk -/

/-- The number of supertypes that the declarations have whose names are not among the visited
ones. -/
def unvisitedSupertypes (visited : List String) : List (String × Declaration) → Nat
  | [] => 0
  | e :: rest =>
    (if visited.contains e.1 then 0 else e.2.supertypes.length) + unvisitedSupertypes visited rest

theorem unvisitedSupertypes_cons_le (n : String) (visited : List String)
    (entries : List (String × Declaration)) :
    unvisitedSupertypes (n :: visited) entries ≤ unvisitedSupertypes visited entries := by
  induction entries with
  | nil => exact Nat.le_refl _
  | cons e rest ih =>
    refine Nat.add_le_add ?_ ih
    by_cases h : visited.contains e.1 = true
    · exact Nat.le_of_eq (by rw [if_pos h, if_pos (by rw [List.contains_cons, h, Bool.or_true])])
    · rw [if_neg h]
      split
      · exact Nat.zero_le _
      · exact Nat.le_refl _

/-- A visit to a declared name takes its supertypes off the number. -/
theorem unvisitedSupertypes_cons_add_le {n : String} {visited : List String} {d : Declaration}
    {entries : List (String × Declaration)} (hd : entries.lookup n = some d)
    (hv : ¬visited.contains n = true) :
    unvisitedSupertypes (n :: visited) entries + d.supertypes.length ≤
      unvisitedSupertypes visited entries := by
  induction entries with
  | nil => exact absurd hd (by simp)
  | cons e rest ih =>
    rw [List.lookup_cons] at hd
    by_cases hn : n = e.1
    · subst hn
      have hd : e.2 = d := by simpa using hd
      have hle := unvisitedSupertypes_cons_le e.1 visited rest
      rw [unvisitedSupertypes, unvisitedSupertypes, if_pos (by simp), if_neg hv, hd]
      omega
    · have hrest : rest.lookup n = some d := by rwa [beq_eq_false_iff_ne.2 hn] at hd
      have hlt := ih hrest
      have hkeep : (n :: visited).contains e.1 = visited.contains e.1 := by
        rw [List.contains_cons, beq_eq_false_iff_ne.2 (Ne.symm hn), Bool.false_or]
      rw [unvisitedSupertypes, unvisitedSupertypes, hkeep]
      omega

namespace Catalog

/-! ### The walk -/

/-- Visits the pending types in order, the supertypes of a type before the types after it. A type
that is not a class or interface is passed over, and so is one whose name was visited. -/
def walk (c : Catalog) (pending : List JavaType) (visited : List String) (s : Surface) : Surface :=
  match pending with
  | [] => s
  | t :: rest =>
    match t.name? with
    | none => c.walk rest visited s
    | some n =>
      if _hv : visited.contains n = true then c.walk rest visited s
      else match (c.find? n).attach with
        | none => c.walk rest (n :: visited) { s with undeclared := s.undeclared ++ [t] }
        | some ⟨d, _hd⟩ =>
          let b := d.bindings t.args
          let own := d.methods.map (Method.seenThrough b d.qualifiedName)
          c.walk (d.supertypes.map (JavaType.substitute b.lookup) ++ rest) (n :: visited)
            { s with members := own.foldl addMember s.members }
  termination_by pending.length + unvisitedSupertypes visited c.types.entries
  decreasing_by
    · simp only [List.length_cons]
      omega
    · simp only [List.length_cons]
      omega
    · have := unvisitedSupertypes_cons_le n visited c.types.entries
      simp only [List.length_cons]
      omega
    · have := unvisitedSupertypes_cons_add_le _hd _hv
      simp only [List.length_append, List.length_map, List.length_cons]
      omega

/-- Whether a type is a use of a declaration. -/
def declares (c : Catalog) (t : JavaType) : Bool :=
  match t.name? with
  | none => false
  | some n => (c.find? n).isSome

/-- The surface of a type. A type without declaration has none. -/
def surface (c : Catalog) (t : JavaType) : Surface :=
  if c.declares t then c.walk [t, .object] [] ⟨[], []⟩ else ⟨[], []⟩

/-- The methods that can be called on a type. -/
def membersOf (c : Catalog) (t : JavaType) : List Member := (c.surface t).members

end Catalog

end BuilderPlanner
