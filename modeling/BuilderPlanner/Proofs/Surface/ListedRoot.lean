import BuilderPlanner.Proofs.Catalog.Valid
import BuilderPlanner.Proofs.Success
import BuilderPlanner.Proofs.Surface.Groups
import BuilderPlanner.Proofs.Surface.Overriding
import BuilderPlanner.Proofs.Surface.Reached

/-!
# The root class among the supertypes

Every walk ends with the root class. Where a declaration names it as a supertype, the walk comes to
it earlier: the root is visited at its place in the list, before the supertypes behind it. What is
visited is the same otherwise, in the same order. But of each signature the first method is kept,
and so the root wins over the types that it is moved before.

* `Catalog.listRoot` — a declaration names the root class as one more supertype;
* `Visits.move_root`, `Visits.rootMoved` — the walks of the two catalogs are the same, up to the
  place of the root;
* `Catalog.membersOf_listRoot_iff` — so a surface stays as it is if and only if the types that come
  behind the root now have no methods of new signatures, or the root has none.
-/

namespace BuilderPlanner

open JavaType (objectName)

/-! ### The root among the supertypes -/

/-- A declaration that names the root class as one more supertype. -/
def Declaration.listRoot (d : Declaration) (i : ℕ) : Declaration :=
  { d with supertypes := d.supertypes.take i ++ .object :: d.supertypes.drop i }

namespace Catalog

/-- The catalog in which a declaration names the root class as one more supertype. -/
def listRoot (c : Catalog) (d : Declaration) (i : ℕ) : Catalog := c.redeclare (d.listRoot i)

/-- The root class is declared, without type parameters and supertypes. -/
def HasPlainRoot (c : Catalog) : Prop :=
  ∃ root, c.find? objectName = some root ∧ root.typeParams = [] ∧ root.supertypes = []

/-- The root class is plain unless a document describes it in another way. -/
theorem hasPlainRoot_of_catalog {doc : Document} {c : Catalog} (hload : doc.catalog = .ok c)
    (h : objectName ∉ doc.types.names) : c.HasPlainRoot := by
  obtain ⟨root, hroot⟩ :=
    Option.isSome_iff_exists.1 ((Document.isSome_find?_iff hload).2 (.inr rfl))
  rcases Document.declared_of_catalog hload hroot with ⟨t, ht, -⟩ | ⟨-, rfl⟩
  · exact absurd (List.mem_map_of_mem ht) h
  · exact ⟨objectDeclaration, hroot, rfl, rfl⟩

section

variable {c : Catalog} {d : Declaration} {i : ℕ} {t : JavaType} {n : String}
  {pending us us' : List JavaType} {visited : List String}

theorem HasPlainRoot.find?_ne_none (h : c.HasPlainRoot) : c.find? objectName ≠ none := by
  obtain ⟨root, hroot, -, -⟩ := h
  exact Option.ne_none_iff_exists'.2 ⟨root, hroot⟩

theorem HasPlainRoot.supertypesOf (h : c.HasPlainRoot) (ht : t.name? = some objectName) :
    c.supertypesOf t = [] := by
  obtain ⟨root, hroot, -, hsupertypes⟩ := h
  rw [supertypesOf_eq ht hroot, hsupertypes, List.map_nil]

/-- All uses of the root class have the same methods. -/
theorem HasPlainRoot.ownMembers (h : c.HasPlainRoot) (ht : t.name? = some objectName) :
    c.ownMembers t = c.ownMembers .object := by
  obtain ⟨root, hroot, hparams, -⟩ := h
  have hbindings : ∀ args, root.bindings args = [] := by
    intro args
    unfold Declaration.bindings
    rw [hparams]
    split
    · rfl
    · rfl
  rw [ownMembers_eq ht hroot, ownMembers_eq rfl hroot, hbindings, hbindings]

theorem find?_listRoot_self : (c.listRoot d i).find? d.qualifiedName = some (d.listRoot i) :=
  find?_redeclare_self

theorem supertypesOf_listRoot (hd : c.find? d.qualifiedName = some d)
    (ht : t.name? = some d.qualifiedName) : ∃ before after,
      c.supertypesOf t = before ++ after ∧
        (c.listRoot d i).supertypesOf t = before ++ .object :: after := by
  let σ := (d.bindings t.args).lookup
  refine ⟨(d.supertypes.take i).map (JavaType.substitute σ),
    (d.supertypes.drop i).map (JavaType.substitute σ), ?_, ?_⟩
  · rw [supertypesOf_eq ht hd, ← List.map_append, List.take_append_drop]
  · rw [supertypesOf_eq ht find?_listRoot_self, Declaration.listRoot, List.map_append,
      List.map_cons]
    rfl

theorem ownMembers_listRoot (hd : c.find? d.qualifiedName = some d) (t : JavaType) :
    (c.listRoot d i).ownMembers t = c.ownMembers t := by
  by_cases hn : t.name? = some d.qualifiedName
  · rw [ownMembers_eq hn find?_listRoot_self, ownMembers_eq hn hd]
    rfl
  · exact ownMembers_redeclare_of_ne (d := d.listRoot i) hn

/-! ### The walks -/

/-- The same types are visited in the same order, only the root class comes earlier. If it was
visited before, nothing changes. -/
def RootMoved (visited : List String) (us us' : List JavaType) : Prop :=
  objectName ∈ visited ∧ us' = us ∨
    ∃ before between after o o', us = before ++ between ++ o :: after ∧
      us' = before ++ o' :: between ++ after ∧ o.name? = some objectName ∧
        o'.name? = some objectName

theorem RootMoved.of_cons (h : RootMoved (n :: visited) us us') (hn : n ≠ objectName) :
    RootMoved visited us us' := by
  refine h.imp_left fun hkept => ⟨?_, hkept.2⟩
  exact (List.mem_cons.1 hkept.1).resolve_left hn.symm

/-- If the root class is visited at the front of both walks, it is moved by nothing. -/
theorem RootMoved.cons (h : RootMoved (n :: visited) us us') (ht : t.name? = some n) :
    RootMoved visited (t :: us) (t :: us') := by
  rcases h with ⟨hmem, rfl⟩ | ⟨before, between, after, o, o', rfl, rfl, ho, ho'⟩
  · rcases List.mem_cons.1 hmem with rfl | hmem
    · exact .inr ⟨[], [], us', t, t, rfl, rfl, ht, ht⟩
    · exact .inl ⟨hmem, rfl⟩
  · exact .inr ⟨t :: before, between, after, o, o', rfl, rfl, ho, ho'⟩

theorem object_mem_tail {rest : List JavaType} (h : JavaType.object ∈ t :: rest)
    (hn : t.name? ≠ some objectName) : JavaType.object ∈ rest :=
  (List.mem_cons.1 h).resolve_left fun heq => hn (heq ▸ rfl)

theorem Visits.swap_visited {m : String} (h : c.Visits pending (m :: n :: visited) us) :
    c.Visits pending (n :: m :: visited) us :=
  h.congr_visited fun _ _ => by
    rw [List.mem_cons, List.mem_cons, List.mem_cons, List.mem_cons, or_left_comm]

/-- A root class that is still to come may count as visited: its visit is left out then. -/
theorem Visits.skip_root (hroot : c.HasPlainRoot) (h : c.Visits pending visited us)
    (hpending : JavaType.object ∈ pending) (hv : objectName ∉ visited) :
    ∃ between o after, us = between ++ o :: after ∧ o.name? = some objectName ∧
      c.Visits pending (objectName :: visited) (between ++ after) := by
  induction h with
  | done visited => exact absurd hpending List.not_mem_nil
  | nameless hn _ ih =>
    have hrest := object_mem_tail hpending (hn ▸ nofun)
    obtain ⟨between, o, after, rfl, ho, hskip⟩ := ih hrest hv
    exact ⟨between, o, after, rfl, ho, .nameless hn hskip⟩
  | again hn hmem _ ih =>
    have hrest := object_mem_tail hpending fun h =>
      hv (Option.some.inj (hn.symm.trans h) ▸ hmem)
    obtain ⟨between, o, after, rfl, ho, hskip⟩ := ih hrest hv
    exact ⟨between, o, after, rfl, ho, .again hn (List.mem_cons_of_mem _ hmem) hskip⟩
  | @undeclared t rest us visited n hn hmem hd _ ih =>
    have hne : n ≠ objectName := fun heq => hroot.find?_ne_none (heq ▸ hd)
    have hrest := object_mem_tail hpending fun h => hne (Option.some.inj (hn.symm.trans h))
    obtain ⟨between, o, after, rfl, ho, hskip⟩ :=
      ih hrest (List.not_mem_cons_of_ne_of_not_mem hne.symm hv)
    exact ⟨between, o, after, rfl, ho,
      .undeclared hn (List.not_mem_cons_of_ne_of_not_mem hne hmem) hd hskip.swap_visited⟩
  | @first t rest us visited n d hn hmem hd h ih =>
    by_cases hne : n = objectName
    · -- the root has no supertypes, so nothing but its own visit is left out
      subst hne
      rw [hroot.supertypesOf hn, List.nil_append] at h
      exact ⟨[], t, us, rfl, hn, .again hn List.mem_cons_self h⟩
    · have hrest := object_mem_tail hpending fun h => hne (Option.some.inj (hn.symm.trans h))
      obtain ⟨between, o, after, rfl, ho, hskip⟩ :=
        ih (List.mem_append_right _ hrest) (List.not_mem_cons_of_ne_of_not_mem (Ne.symm hne) hv)
      exact ⟨t :: between, o, after, rfl, ho,
        .first hn (List.not_mem_cons_of_ne_of_not_mem hne hmem) hd hskip.swap_visited⟩

/-- A root class that is put before pending types is visited there. -/
theorem Visits.cons_root (hroot : c.HasPlainRoot) (h : c.Visits pending visited us)
    (hpending : objectName ∈ visited ∨ JavaType.object ∈ pending) :
    ∃ us', c.Visits (.object :: pending) visited us' ∧ RootMoved visited us us' := by
  by_cases hv : objectName ∈ visited
  · exact ⟨us, .again rfl hv h, .inl ⟨hv, rfl⟩⟩
  · obtain ⟨between, o, after, rfl, ho, hskip⟩ :=
      h.skip_root hroot (hpending.resolve_left hv) hv
    obtain ⟨root, hdeclared⟩ := Option.ne_none_iff_exists'.1 hroot.find?_ne_none
    refine ⟨.object :: (between ++ after), .first rfl hv hdeclared ?_,
      .inr ⟨[], between, after, o, .object, rfl, rfl, ho, rfl⟩⟩
    rwa [hroot.supertypesOf rfl, List.nil_append]

/-- A root class that is put between pending types comes earlier if it was still to come. The
induction is on the walk up to the place of the root. -/
theorem Visits.move_root (hroot : c.HasPlainRoot) (h : c.Visits pending visited us)
    {before after : List JavaType} (hsplit : pending = before ++ after)
    (hafter : objectName ∈ visited ∨ JavaType.object ∈ after) :
    ∃ us', c.Visits (before ++ .object :: after) visited us' ∧ RootMoved visited us us' := by
  induction h generalizing before with
  | done visited =>
    obtain ⟨rfl, rfl⟩ := List.append_eq_nil_iff.1 hsplit.symm
    exact (Visits.done visited).cons_root hroot hafter
  | nameless hn h ih =>
    rcases List.cons_eq_append_iff.1 hsplit with ⟨rfl, rfl⟩ | ⟨before, rfl, hrest⟩
    · exact (Visits.nameless hn h).cons_root hroot hafter
    · obtain ⟨us', hus', hmoved⟩ := ih hrest hafter
      exact ⟨us', .nameless hn hus', hmoved⟩
  | again hn hmem h ih =>
    rcases List.cons_eq_append_iff.1 hsplit with ⟨rfl, rfl⟩ | ⟨before, rfl, hrest⟩
    · exact (Visits.again hn hmem h).cons_root hroot hafter
    · obtain ⟨us', hus', hmoved⟩ := ih hrest hafter
      exact ⟨us', .again hn hmem hus', hmoved⟩
  | @undeclared t rest us visited n hn hmem hd h ih =>
    rcases List.cons_eq_append_iff.1 hsplit with ⟨rfl, rfl⟩ | ⟨before, rfl, hrest⟩
    · exact (Visits.undeclared hn hmem hd h).cons_root hroot hafter
    · have hne : n ≠ objectName := fun heq => hroot.find?_ne_none (heq ▸ hd)
      obtain ⟨us', hus', hmoved⟩ := ih hrest (hafter.imp_left (List.mem_cons_of_mem n))
      exact ⟨us', .undeclared hn hmem hd hus', hmoved.of_cons hne⟩
  | @first t rest us visited n d hn hmem hd h ih =>
    rcases List.cons_eq_append_iff.1 hsplit with ⟨rfl, rfl⟩ | ⟨before, rfl, hrest⟩
    · exact (Visits.first hn hmem hd h).cons_root hroot hafter
    · have hnext : c.supertypesOf t ++ rest = (c.supertypesOf t ++ before) ++ after := by
        rw [hrest, List.append_assoc]
      obtain ⟨us', hus', hmoved⟩ := ih hnext (hafter.imp_left (List.mem_cons_of_mem n))
      rw [List.append_assoc] at hus'
      exact ⟨t :: us', .first hn hmem hd hus', hmoved.cons hn⟩

/-! ### The walks of the two catalogs -/

theorem find?_listRoot_of_ne (hn : n ≠ d.qualifiedName) : (c.listRoot d i).find? n = c.find? n :=
  find?_redeclare_of_ne (d := d.listRoot i) hn

theorem supertypesOf_listRoot_of_ne (hn : t.name? = some n) (hne : n ≠ d.qualifiedName) :
    (c.listRoot d i).supertypesOf t = c.supertypesOf t :=
  supertypesOf_redeclare_of_ne (d := d.listRoot i) fun h =>
    hne (Option.some.inj (hn.symm.trans h))

/-- Once the declaration was visited, its supertypes do not matter any more. -/
theorem Visits.listRoot_of_visited (h : c.Visits pending visited us)
    (hmem : d.qualifiedName ∈ visited) : (c.listRoot d i).Visits pending visited us := by
  induction h with
  | done visited => exact .done visited
  | nameless hn _ ih => exact .nameless hn (ih hmem)
  | again hn hv _ ih => exact .again hn hv (ih hmem)
  | @undeclared t rest us visited n hn hv hd _ ih =>
    have hne : n ≠ d.qualifiedName := fun heq => hv (heq ▸ hmem)
    exact .undeclared hn hv ((find?_listRoot_of_ne hne).trans hd) (ih (List.mem_cons_of_mem n hmem))
  | @first t rest us visited n _ hn hv hd _ ih =>
    have hne : n ≠ d.qualifiedName := fun heq => hv (heq ▸ hmem)
    refine .first hn hv ((find?_listRoot_of_ne hne).trans hd) ?_
    rw [supertypesOf_listRoot_of_ne hn hne]
    exact ih (List.mem_cons_of_mem n hmem)

/-- The root class stays ahead behind another pending type. -/
theorem root_ahead {rest : List JavaType}
    (h : objectName ∈ visited ∨ JavaType.object ∈ t :: rest) (hn : t.name? = some n) :
    objectName ∈ n :: visited ∨ JavaType.object ∈ rest := by
  by_cases hname : n = objectName
  · exact .inl (hname ▸ List.mem_cons_self)
  · refine h.imp (List.mem_cons_of_mem n) fun hmem => object_mem_tail hmem fun ht => ?_
    exact hname (Option.some.inj (hn.symm.trans ht))

/-- A walk that has not come to the declaration yet visits the same types in both catalogs, up to
the place of the root class. The walks part at the declaration, and from there on they are walks of
one catalog. -/
theorem Visits.rootMoved (hroot : c.HasPlainRoot) (hd : c.find? d.qualifiedName = some d)
    (h : c.Visits pending visited us)
    (hahead : objectName ∈ visited ∨ JavaType.object ∈ pending)
    (hnew : d.qualifiedName ∉ visited) :
    ∃ us', (c.listRoot d i).Visits pending visited us' ∧ RootMoved visited us us' := by
  induction h with
  | done visited =>
    exact ⟨[], .done visited, .inl ⟨hahead.resolve_right List.not_mem_nil, rfl⟩⟩
  | nameless hn _ ih =>
    obtain ⟨us', hus', hmoved⟩ :=
      ih (hahead.imp_right fun h => object_mem_tail h (hn ▸ nofun)) hnew
    exact ⟨us', .nameless hn hus', hmoved⟩
  | @again t rest us visited n hn hmem _ ih =>
    have hrest : objectName ∈ visited ∨ JavaType.object ∈ rest := by
      refine (root_ahead hahead hn).imp_left fun hcons => ?_
      rcases List.mem_cons.1 hcons with rfl | h
      · exact hmem
      · exact h
    obtain ⟨us', hus', hmoved⟩ := ih hrest hnew
    exact ⟨us', .again hn hmem hus', hmoved⟩
  | @undeclared t rest us visited n hn hmem hnone _ ih =>
    have hnd : n ≠ d.qualifiedName := fun heq => by simp [heq, hd] at hnone
    have hno : n ≠ objectName := fun heq => hroot.find?_ne_none (heq ▸ hnone)
    obtain ⟨us', hus', hmoved⟩ :=
      ih (root_ahead hahead hn) (List.not_mem_cons_of_ne_of_not_mem hnd.symm hnew)
    exact ⟨us', .undeclared hn hmem ((find?_listRoot_of_ne hnd).trans hnone) hus',
      hmoved.of_cons hno⟩
  | @first t rest us visited n d' hn hmem hsome h ih =>
    by_cases hnd : n = d.qualifiedName
    · subst hnd
      -- the root is put between the supertypes; the rest does not see the declaration again
      obtain ⟨before, after, hbefore, hlisted⟩ := supertypesOf_listRoot (i := i) hd hn
      rw [hbefore, List.append_assoc] at h
      have hafter := (root_ahead hahead hn).imp_right (List.mem_append_right after)
      obtain ⟨us', hus', hmoved⟩ := h.move_root hroot rfl hafter
      refine ⟨t :: us', .first hn hmem find?_listRoot_self ?_, hmoved.cons hn⟩
      rw [hlisted, List.append_assoc]
      exact hus'.listRoot_of_visited List.mem_cons_self
    · obtain ⟨us', hus', hmoved⟩ :=
        ih ((root_ahead hahead hn).imp_right (List.mem_append_right _))
          (List.not_mem_cons_of_ne_of_not_mem (Ne.symm hnd) hnew)
      refine ⟨t :: us', .first hn hmem ((find?_listRoot_of_ne hnd).trans hsome) ?_,
        hmoved.cons hn⟩
      rwa [supertypesOf_listRoot_of_ne hn hnd]

/-! ### The surfaces -/

theorem declares_listRoot (hd : c.find? d.qualifiedName = some d) (t : JavaType) :
    (c.listRoot d i).declares t = c.declares t :=
  declares_redeclare (d := d.listRoot i) (Option.isSome_of_eq_some hd) t

/-- No method of the root class is one of another visited type. -/
theorem Visits.ne_of_mem_root (hnames : ∀ k d, c.find? k = some d → d.qualifiedName = k)
    {before between after : List JavaType} {o : JavaType}
    (h : c.Visits pending visited (before ++ between ++ o :: after))
    (ho : o.name? = some objectName) {x y : Member} (hx : x ∈ between.flatMap c.ownMembers)
    (hy : y ∈ c.ownMembers .object) : x ≠ y := by
  rintro rfl
  obtain ⟨u, hu, hxu⟩ := List.mem_flatMap.1 hx
  have hname : u.name? = o.name? := by
    rw [declaredIn_of_mem_ownMembers hnames hxu, ho, ← declaredIn_of_mem_ownMembers hnames hy]
    rfl
  have hnodup := h.nodup_name
  rw [List.map_append, List.nodup_append] at hnodup
  exact hnodup.2.2 _ (List.mem_map_of_mem (List.mem_append_right before hu)) _
    (List.mem_map_of_mem List.mem_cons_self) hname

/-- Where the root class is moved in the visits, the surface stays as it is if and only if the types
that it is moved before have no methods of new signatures, or it has none itself. -/
theorem membersOf_eq_iff_of_moved (hnames : ∀ k d, c.find? k = some d → d.qualifiedName = k)
    (hroot : c.HasPlainRoot) (hd : c.find? d.qualifiedName = some d) (ht : c.declares t = true)
    {before between after : List JavaType} {o o' : JavaType}
    (hus : c.Visits [t, .object] [] (before ++ between ++ o :: after))
    (hus' : (c.listRoot d i).Visits [t, .object] [] (before ++ o' :: between ++ after))
    (ho : o.name? = some objectName) (ho' : o'.name? = some objectName) :
    (c.listRoot d i).membersOf t = c.membersOf t ↔
      Covered (between.flatMap c.ownMembers) (before.flatMap c.ownMembers) ∨
        Covered (c.ownMembers .object) (before.flatMap c.ownMembers) := by
  have hown : (c.listRoot d i).ownMembers = c.ownMembers := funext (ownMembers_listRoot hd)
  rw [eq_comm, hus.membersOf_eq ht, hus'.membersOf_eq ((declares_listRoot hd t).trans ht), hown]
  simp only [List.flatMap_append, List.flatMap_cons, List.append_assoc, List.foldl_append,
    List.cons_append, hroot.ownMembers ho, hroot.ownMembers ho']
  rw [foldl_addMember_swap_iff fun x hx y hy => hus.ne_of_mem_root hnames ho hx hy,
    covered_foldl_addMember_iff, covered_foldl_addMember_iff]

end

/-- **What it means to name the root class as a supertype.** Let a declared type name the root class
at some position among its supertypes, in a loaded catalog whose root class has neither type
parameters nor supertypes. Then the walk from each declared target visits the same types in the same
order, only that the root may come earlier, before some of them. The surface stays as it is if and
only if these have no methods with signatures that do not come before, or the root has none. A target
that is not declared has no surface in either catalog. -/
theorem membersOf_listRoot_iff {doc : Document} {c : Catalog} (hload : doc.catalog = .ok c)
    (hroot : c.HasPlainRoot) {q : String} {d : Declaration} (hd : c.find? q = some d) (i : ℕ)
    (t : JavaType) :
    (c.declares t = false → (c.listRoot d i).membersOf t = c.membersOf t) ∧
    (c.declares t = true → ∃ before between after o o',
      c.Visits [t, .object] [] (before ++ between ++ o :: after) ∧
      (c.listRoot d i).Visits [t, .object] [] (before ++ o' :: between ++ after) ∧
      o.name? = some objectName ∧ o'.name? = some objectName ∧
      ((c.listRoot d i).membersOf t = c.membersOf t ↔
        Covered (between.flatMap c.ownMembers) (before.flatMap c.ownMembers) ∨
          Covered (c.ownMembers .object) (before.flatMap c.ownMembers))) := by
  obtain rfl := Document.qualifiedName_of_catalog hload hd
  refine ⟨fun ht => ?_, fun ht => ?_⟩
  · have ht' := (declares_listRoot (i := i) hd t).trans ht
    rw [membersOf_eq_nil (Bool.eq_false_iff.1 ht), membersOf_eq_nil (Bool.eq_false_iff.1 ht')]
  · obtain ⟨us, hus⟩ := c.exists_visits [t, .object] []
    obtain ⟨us', hus', hmoved⟩ := hus.rootMoved (i := i) hroot hd
      (.inr (List.mem_cons_of_mem t List.mem_cons_self)) List.not_mem_nil
    obtain ⟨before, between, after, o, o', rfl, rfl, ho, ho'⟩ :=
      hmoved.resolve_left fun hkept => absurd hkept.1 List.not_mem_nil
    exact ⟨before, between, after, o, o', hus, hus', ho, ho',
      membersOf_eq_iff_of_moved (fun _ _ => Document.qualifiedName_of_catalog hload) hroot hd ht
        hus hus' ho ho'⟩

/-- A class with an interface that declares a method of the root class. -/
def circleDocument : Document where
  types := .ofList [
    ("a.Circle", { supertypes := ["a.Shape"] }),
    ("a.Shape",
      { kind := .interfaceKind, methods := [{ name := "clone", returns := "a.Shape" }] })]

/-- If the class names the root class before the interface, the surface of the class has the method
of the root class in place of that of the interface, and is seen by fewer callers. -/
theorem circle_names_root :
    ∃ c d, circleDocument.catalog = .ok c ∧ c.HasPlainRoot ∧ c.find? "a.Circle" = some d ∧
      (∃ m ∈ c.membersOf (.plain "a.Circle"), m.name = "clone" ∧ m.declaredIn = "a.Shape" ∧
        m.visibility = .everywhere) ∧
      (∃ m ∈ (c.listRoot d 0).membersOf (.plain "a.Circle"), m.name = "clone" ∧
        m.declaredIn = objectName ∧ m.visibility = .subclasses) ∧
      (c.listRoot d 0).membersOf (.plain "a.Circle") ≠ c.membersOf (.plain "a.Circle") := by
  obtain ⟨c, hc, d, hd, hbefore, hafter, hne⟩ := exists_of_eval
    circleDocument.catalog (fun c => ∃ d ∈ c.find? "a.Circle",
        (∃ m ∈ c.membersOf (.plain "a.Circle"), m.name = "clone" ∧ m.declaredIn = "a.Shape" ∧
          m.visibility = .everywhere) ∧
        (∃ m ∈ (c.listRoot d 0).membersOf (.plain "a.Circle"), m.name = "clone" ∧
          m.declaredIn = objectName ∧ m.visibility = .subclasses) ∧
        (c.listRoot d 0).membersOf (.plain "a.Circle") ≠ c.membersOf (.plain "a.Circle"))
    (by decide +kernel)
  exact ⟨c, d, hc, hasPlainRoot_of_catalog hc (by decide +kernel), hd, hbefore, hafter, hne⟩

/-- So the root class is moved before a type with a method of a new signature there, and has such a
method itself. -/
theorem circle_moves_root :
    ∃ c d, circleDocument.catalog = .ok c ∧ c.HasPlainRoot ∧ c.find? "a.Circle" = some d ∧
      ∃ before between after o o',
        c.Visits [.plain "a.Circle", .object] [] (before ++ between ++ o :: after) ∧
        (c.listRoot d 0).Visits [.plain "a.Circle", .object] []
          (before ++ o' :: between ++ after) ∧
        ¬Covered (between.flatMap c.ownMembers) (before.flatMap c.ownMembers) ∧
        ¬Covered (c.ownMembers .object) (before.flatMap c.ownMembers) := by
  obtain ⟨c, hc, ht, d, hd, hchanged⟩ := exists_of_eval circleDocument.catalog
    (fun c => c.declares (.plain "a.Circle") = true ∧ ∃ d ∈ c.find? "a.Circle",
        (c.listRoot d 0).membersOf (.plain "a.Circle") ≠ c.membersOf (.plain "a.Circle"))
    (by decide +kernel)
  have hroot : c.HasPlainRoot := hasPlainRoot_of_catalog hc (by decide +kernel)
  obtain ⟨before, between, after, o, o', hus, hus', -, -, hiff⟩ :=
    (membersOf_listRoot_iff hc hroot hd 0 (.plain "a.Circle")).2 ht
  obtain ⟨hbetween, hobject⟩ := not_or.1 (mt hiff.2 hchanged)
  exact ⟨c, d, hc, hroot, hd, before, between, after, o, o', hus, hus', hbetween, hobject⟩

end Catalog

end BuilderPlanner
