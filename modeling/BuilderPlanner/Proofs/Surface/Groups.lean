import BuilderPlanner.Proofs.Surface.Visits
import Mathlib.Data.Finset.Card

/-!
# Groups of members

What becomes of a surface when the methods that it is made of come in another order, or when one of
them gets another signature. Of each signature the first is kept, so the members before a method
tell whether it is kept, and it tells which of those behind it are kept.

* `Covered` — all signatures of a group are taken; such a group adds nothing;
* `foldl_addMember_swap_iff` — two groups can change places where one of them adds nothing;
* `EntryReplaced` — one member stands in the place of another;
* `entryReplaced_iff`, `length_of_not_entryReplaced` — this is all that happens if a member gets a
  signature of its own, unless another has the signature that it gives up. In that case there is one
  member more.
-/

namespace BuilderPlanner

/-! ### Covered groups -/

/-- All signatures of some members are taken. -/
def Covered (ms taken : List Member) : Prop := ∀ m ∈ ms, ∃ m' ∈ taken, m'.signature = m.signature

theorem Covered.mono {ms taken taken' : List Member} (h : Covered ms taken)
    (hsub : taken ⊆ taken') : Covered ms taken' := by
  intro m hm
  obtain ⟨m', hm', hs⟩ := h m hm
  exact ⟨m', hsub hm', hs⟩

theorem addMember_of_taken {members : List Member} {m : Member}
    (h : ∃ m' ∈ members, m'.signature = m.signature) : addMember members m = members := by
  obtain ⟨m', hm', hs⟩ := h
  exact if_pos (List.any_eq_true.2 ⟨m', hm', decide_eq_true hs⟩)

theorem addMember_of_new {members : List Member} {m : Member}
    (h : ¬∃ m' ∈ members, m'.signature = m.signature) : addMember members m = members ++ [m] := by
  refine if_neg fun hany => h ?_
  obtain ⟨m', hm', hs⟩ := List.any_eq_true.1 hany
  exact ⟨m', hm', of_decide_eq_true hs⟩

/-- Members are added behind those that are there. -/
theorem exists_foldl_addMember (ms members : List Member) :
    ∃ added, ms.foldl addMember members = members ++ added := by
  induction ms generalizing members with
  | nil => exact ⟨[], (List.append_nil members).symm⟩
  | cons m ms ih =>
    obtain ⟨added, hadded⟩ := ih (addMember members m)
    rw [List.foldl_cons, hadded]
    by_cases hm : ∃ m' ∈ members, m'.signature = m.signature
    · exact ⟨added, by rw [addMember_of_taken hm]⟩
    · exact ⟨m :: added, by rw [addMember_of_new hm, List.append_assoc, List.singleton_append]⟩

theorem foldl_addMember_of_covered {ms members : List Member} (h : Covered ms members) :
    ms.foldl addMember members = members := by
  induction ms with
  | nil => rfl
  | cons m ms ih =>
    obtain ⟨hm, hms⟩ := List.forall_mem_cons.1 h
    rw [List.foldl_cons, addMember_of_taken hm, ih hms]

/-- The first member that is added is one of the group. -/
theorem exists_added_of_not_covered {ms members : List Member} (h : ¬Covered ms members) :
    ∃ m ∈ ms, ∃ added, ms.foldl addMember members = members ++ m :: added := by
  induction ms with
  | nil => exact absurd (fun m hm => absurd hm List.not_mem_nil) h
  | cons m ms ih =>
    rw [List.foldl_cons]
    by_cases hm : ∃ m' ∈ members, m'.signature = m.signature
    · have hms : ¬Covered ms members := fun hms => h (List.forall_mem_cons.2 ⟨hm, hms⟩)
      obtain ⟨m', hm', added, hadded⟩ := ih hms
      exact ⟨m', List.mem_cons_of_mem m hm', added, by rw [addMember_of_taken hm, hadded]⟩
    · obtain ⟨added, hadded⟩ := exists_foldl_addMember ms (members ++ [m])
      refine ⟨m, List.mem_cons_self, added, ?_⟩
      rw [addMember_of_new hm, hadded, List.append_assoc, List.singleton_append]

/-- Two groups without a common member can be added in either order if and only if one of them adds
nothing. Otherwise the first member that is added tells the order. -/
theorem foldl_addMember_swap_iff {members xs ys rest : List Member}
    (hdisjoint : ∀ x ∈ xs, ∀ y ∈ ys, x ≠ y) :
    rest.foldl addMember (ys.foldl addMember (xs.foldl addMember members)) =
        rest.foldl addMember (xs.foldl addMember (ys.foldl addMember members)) ↔
      Covered xs members ∨ Covered ys members := by
  have hmono : ∀ {ms others : List Member}, Covered ms members →
      Covered ms (others.foldl addMember members) := by
    intro ms others h
    obtain ⟨added, hadded⟩ := exists_foldl_addMember others members
    rw [hadded]
    exact h.mono (List.subset_append_left members added)
  constructor
  · intro heq
    by_contra hnot
    obtain ⟨hxs, hys⟩ := not_or.1 hnot
    -- both results begin with `members`, and go on with the first member of the group added first
    obtain ⟨x, hx, added, hadded⟩ := exists_added_of_not_covered hxs
    obtain ⟨y, hy, added', hadded'⟩ := exists_added_of_not_covered hys
    rw [hadded, hadded', ← List.foldl_append, ← List.foldl_append] at heq
    obtain ⟨more, hmore⟩ := exists_foldl_addMember (ys ++ rest) (members ++ x :: added)
    obtain ⟨more', hmore'⟩ := exists_foldl_addMember (xs ++ rest) (members ++ y :: added')
    rw [hmore, hmore', List.append_assoc, List.append_assoc] at heq
    exact hdisjoint x hx y hy (List.cons.inj (List.append_cancel_left heq)).1
  · rintro (h | h)
    · rw [foldl_addMember_of_covered h, foldl_addMember_of_covered (hmono h)]
    · rw [foldl_addMember_of_covered h, foldl_addMember_of_covered (hmono h)]

/-- The signatures of the members are those of all that were added. -/
theorem exists_signature_foldl_addMember {added : List Member} {s : String × List String} :
    (∃ m ∈ added.foldl addMember [], m.signature = s) ↔ ∃ m ∈ added, m.signature = s := by
  have hfind := congrArg Option.isSome (find?_foldl_addMember added [] s)
  rw [List.nil_append] at hfind
  have hiff := Bool.eq_iff_iff.1 hfind
  simpa only [List.find?_isSome, decide_eq_true_eq] using hiff

theorem covered_foldl_addMember_iff {ms added : List Member} :
    Covered ms (added.foldl addMember []) ↔ Covered ms added := by
  simp only [Covered, exists_signature_foldl_addMember]

/-- There are as many members as there are signatures. -/
theorem length_foldl_addMember (ms : List Member) :
    (ms.foldl addMember []).length = (ms.map Member.signature).toFinset.card := by
  have hnodup : ((ms.foldl addMember []).map Member.signature).Nodup :=
    nodup_foldl_addMember ms List.nodup_nil
  have hsame : ((ms.foldl addMember []).map Member.signature).toFinset =
      (ms.map Member.signature).toFinset := by
    ext s
    simp only [List.mem_toFinset, List.mem_map, exists_signature_foldl_addMember]
  rw [← hsame, List.toFinset_card_of_nodup hnodup, List.length_map]

/-! ### A member in the place of another -/

/-- In the second list `e'` stands in the place that `e` has in the first. If its signature is taken
by the members `before`, then `e` has no place, and the lists are the same. -/
def EntryReplaced (before : List Member) (e e' : Member) (members members' : List Member) : Prop :=
  (∃ m ∈ before, m.signature = e.signature) ∧ members' = members ∨
    (¬∃ m ∈ before, m.signature = e.signature) ∧
      ∃ xs ys, members = xs ++ e :: ys ∧ members' = xs ++ e' :: ys

section

variable {before after : List Member} {e e' : Member}

theorem EntryReplaced.length_eq {members members' : List Member}
    (h : EntryReplaced before e e' members members') : members'.length = members.length := by
  rcases h with ⟨-, rfl⟩ | ⟨-, xs, ys, rfl, rfl⟩
  · rfl
  · rw [List.length_append, List.length_append, List.length_cons, List.length_cons]

/-- Two members that take no signature from those behind them, or the same ones, leave the same of
these. -/
theorem foldl_addMember_replaced
    (h : ∀ m ∈ after, e.signature = m.signature ↔ e'.signature = m.signature)
    (xs ys : List Member) :
    ∃ zs, after.foldl addMember (xs ++ e :: ys) = xs ++ e :: zs ∧
      after.foldl addMember (xs ++ e' :: ys) = xs ++ e' :: zs := by
  induction after generalizing ys with
  | nil => exact ⟨ys, rfl, rfl⟩
  | cons m ms ih =>
    obtain ⟨hm, hms⟩ := List.forall_mem_cons.1 h
    have htaken : (∃ x ∈ xs ++ e :: ys, x.signature = m.signature) ↔
        ∃ x ∈ xs ++ e' :: ys, x.signature = m.signature := by
      simp only [List.mem_append, List.mem_cons, or_and_right, exists_or, exists_eq_left, hm]
    rw [List.foldl_cons, List.foldl_cons]
    by_cases hx : ∃ x ∈ xs ++ e :: ys, x.signature = m.signature
    · rw [addMember_of_taken hx, addMember_of_taken (htaken.1 hx)]
      exact ih hms ys
    · rw [addMember_of_new hx, addMember_of_new (mt htaken.2 hx), List.append_assoc,
        List.append_assoc]
      exact ih hms (ys ++ [m])

/-- A member that gets a signature of its own, and gives up one that another has, is one member
more. -/
theorem length_foldl_addMember_of_changed
    (hnew : ∀ m ∈ before ++ after, m.signature ≠ e'.signature)
    (hother : ∃ m ∈ before ++ after, m.signature = e.signature) :
    ((before ++ e' :: after).foldl addMember []).length =
      ((before ++ e :: after).foldl addMember []).length + 1 := by
  have hsignatures : ∀ x : Member, ((before ++ x :: after).map Member.signature).toFinset =
      insert x.signature ((before ++ after).map Member.signature).toFinset := by
    intro x
    ext s
    simp
  have hmem : ∀ x : Member,
      x.signature ∈ ((before ++ after).map Member.signature).toFinset ↔
        ∃ m ∈ before ++ after, m.signature = x.signature := by
    intro x
    rw [List.mem_toFinset, List.mem_map]
  have hnot : e'.signature ∉ ((before ++ after).map Member.signature).toFinset := by
    rw [hmem]
    rintro ⟨m, hm, hs⟩
    exact hnew m hm hs
  rw [length_foldl_addMember, length_foldl_addMember, hsignatures, hsignatures,
    Finset.card_insert_of_notMem hnot, Finset.insert_eq_of_mem ((hmem e).2 hother)]

/-- A member that gets a signature of its own, or else keeps the old one, stands in its old place if
and only if it keeps the old one or no other has it. -/
theorem entryReplaced_iff {changes : Prop} (hkept : ¬changes → e'.signature = e.signature)
    (hnew : changes → ∀ m ∈ before ++ after, m.signature ≠ e'.signature) :
    EntryReplaced before e e' ((before ++ e :: after).foldl addMember [])
        ((before ++ e' :: after).foldl addMember []) ↔
      ¬changes ∨ ∀ m ∈ before ++ after, m.signature ≠ e.signature := by
  constructor
  · intro h
    by_contra hnot
    obtain ⟨hchanges, hother⟩ := not_or.1 hnot
    push Not at hother
    have hlength := length_foldl_addMember_of_changed (hnew (not_not.1 hchanges)) hother
    exact absurd (hlength.symm.trans h.length_eq) (Nat.succ_ne_self _)
  · intro h
    rw [EntryReplaced, List.foldl_append, List.foldl_append, List.foldl_cons, List.foldl_cons]
    by_cases htaken : ∃ m ∈ before, m.signature = e.signature
    · -- another member has the signature of `e`, so `e'` has it as well and adds nothing either
      have hsame : e'.signature = e.signature := by
        obtain ⟨m, hm, hs⟩ := htaken
        exact hkept (h.resolve_right fun hnone => hnone m (List.mem_append_left after hm) hs)
      have hskip := exists_signature_foldl_addMember.2 htaken
      exact .inl ⟨htaken, by rw [addMember_of_taken hskip, addMember_of_taken (hsame ▸ hskip)]⟩
    · have hsame : ∀ m ∈ before ++ after,
          m.signature = e'.signature ↔ m.signature = e.signature := by
        intro m hm
        by_cases hchanges : changes
        · have hfree := h.resolve_left (not_not.2 hchanges)
          exact iff_of_false (hnew hchanges m hm) (hfree m hm)
        · rw [hkept hchanges]
      have htaken' : ¬∃ m ∈ before, m.signature = e'.signature := by
        rintro ⟨m, hm, hs⟩
        exact htaken ⟨m, hm, (hsame m (List.mem_append_left after hm)).1 hs⟩
      have hbehind : ∀ m ∈ after, e.signature = m.signature ↔ e'.signature = m.signature := by
        intro m hm
        rw [eq_comm, ← hsame m (List.mem_append_right before hm), eq_comm]
      rw [addMember_of_new (mt exists_signature_foldl_addMember.1 htaken),
        addMember_of_new (mt exists_signature_foldl_addMember.1 htaken')]
      obtain ⟨zs, hzs, hzs'⟩ := foldl_addMember_replaced hbehind (before.foldl addMember []) []
      exact .inr ⟨htaken, before.foldl addMember [], zs, hzs, hzs'⟩

/-- Otherwise there is one member more. -/
theorem length_of_not_entryReplaced {changes : Prop}
    (hkept : ¬changes → e'.signature = e.signature)
    (hnew : changes → ∀ m ∈ before ++ after, m.signature ≠ e'.signature)
    (h : ¬EntryReplaced before e e' ((before ++ e :: after).foldl addMember [])
      ((before ++ e' :: after).foldl addMember [])) :
    ((before ++ e' :: after).foldl addMember []).length =
      ((before ++ e :: after).foldl addMember []).length + 1 := by
  rw [entryReplaced_iff hkept hnew, not_or, not_not] at h
  obtain ⟨hchanges, hother⟩ := h
  push Not at hother
  exact length_foldl_addMember_of_changed (hnew hchanges) hother

end

end BuilderPlanner
