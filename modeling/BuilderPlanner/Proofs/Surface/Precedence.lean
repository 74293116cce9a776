import BuilderPlanner.Proofs.Surface.Routes

/-!
# Which declaration comes first

Without cycles a walk visits the types in the order of their first routes.

* `Catalog.Frontier` — where a walk stands: the routes to the types that are pending, which part
  the routes that were passed from those still to come;
* `Catalog.FirstNamed`, `Catalog.FirstRouted` — the first of several types, and the first of all
  routes, with a property of the name;
* `Catalog.Frontier.exists_first` — visits follow first routes.
-/

namespace BuilderPlanner

namespace Catalog

/-! ### Routes from several types -/

/-- The type at the end of a route that begins with the choice of one of several types. -/
def followFrom (c : Catalog) (roots : List JavaType) : List ℕ → Option JavaType
  | [] => none
  | i :: route => roots[i]?.bind fun t => c.follow t route

/-- The name of the type at the end of such a route. -/
def nameFrom? (c : Catalog) (roots : List JavaType) (route : List ℕ) : Option String :=
  (c.followFrom roots route).bind JavaType.name?

theorem followFrom_append {c : Catalog} {roots : List JavaType} {t : JavaType} {r : List ℕ}
    (h : c.followFrom roots r = some t) (s : List ℕ) :
    c.followFrom roots (r ++ s) = c.follow t s := by
  cases r with
  | nil => cases h
  | cons i r =>
    rw [followFrom, Option.bind_eq_some_iff] at h
    obtain ⟨u, hu, hfollow⟩ := h
    rw [List.cons_append, followFrom, hu, Option.bind_some, follow_append, hfollow,
      Option.bind_some]

theorem nameFrom?_append {c : Catalog} {roots : List JavaType} {t : JavaType} {r : List ℕ}
    (h : c.followFrom roots r = some t) (s : List ℕ) :
    c.nameFrom? roots (r ++ s) = c.nameAt? t s := by
  rw [nameFrom?, followFrom_append h, nameAt?]

theorem map_getElem?_range {α : Type} (l : List α) :
    (List.range l.length).map (l[·]?) = l.map some := by
  apply List.ext_getElem?
  intro i
  rw [List.getElem?_map, List.getElem?_map]
  by_cases hi : i < l.length
  · rw [List.getElem?_range hi, List.getElem?_eq_getElem hi, Option.map_some, Option.map_some,
      List.getElem?_eq_getElem hi]
  · rw [List.getElem?_eq_none (by simpa using hi), List.getElem?_eq_none (by simpa using hi)]
    rfl

/-- The routes that go one step on, to the first `k` places. -/
def stepsFrom (r : List ℕ) (k : ℕ) : List (List ℕ) := (List.range k).map fun i => r ++ [i]

theorem mem_stepsFrom {r p : List ℕ} {k : ℕ} : p ∈ stepsFrom r k ↔ ∃ i < k, r ++ [i] = p := by
  simp only [stepsFrom, List.mem_map, List.mem_range]

/-! ### The frontier of a walk -/

/-- The routes to the pending types, from the types in `roots`. The routes before them are passed:
they lead to the visited names and to no others. -/
structure Frontier (c : Catalog) (roots : List JavaType) (routes : List (List ℕ))
    (pending : List JavaType) (visited : List String) : Prop where
  /-- The routes lead to the pending types. -/
  leads : routes.map (c.followFrom roots) = pending.map some
  /-- A route and all that go on from it come before the next. -/
  apart : routes.Pairwise fun r r' => ∀ s, r ++ s < r'
  /-- A route that is not passed goes on from one of these. -/
  covers : ∀ q, c.followFrom roots q ≠ none → (∀ r ∈ routes, q < r) ∨ ∃ r ∈ routes, r <+: q
  /-- The names at the ends of the passed routes are visited. -/
  passed : ∀ q n, c.nameFrom? roots q = some n → (∀ r ∈ routes, q < r) → n ∈ visited
  /-- A visited name has a passed route. -/
  reached : ∀ n ∈ visited, ∃ q, c.nameFrom? roots q = some n ∧ ∀ r ∈ routes, q < r

namespace Frontier

variable {c : Catalog} {roots pending rest : List JavaType} {routes : List (List ℕ)}
  {visited : List String} {t : JavaType} {r : List ℕ}

theorem initial (c : Catalog) (roots : List JavaType) :
    c.Frontier roots (stepsFrom [] roots.length) roots [] where
  leads := by
    rw [stepsFrom, List.map_map, ← map_getElem?_range]
    apply List.map_congr_left
    intro i _
    rw [Function.comp_apply, List.nil_append, followFrom, funext fun t => follow.eq_1 c t,
      Option.bind_fun_some]
  apart := by
    rw [stepsFrom, List.pairwise_map]
    apply List.pairwise_lt_range.imp
    intro i j hij s
    exact List.cons_lt_cons_iff.2 (.inl hij)
  covers := by
    intro q hq
    cases q with
    | nil => exact absurd rfl hq
    | cons i q =>
      refine .inr ⟨[i], mem_stepsFrom.2 ⟨i, ?_, rfl⟩, ⟨q, rfl⟩⟩
      by_contra hi
      apply hq
      rw [followFrom, List.getElem?_eq_none (Nat.le_of_not_lt hi), Option.bind_none]
  passed := by
    intro q n hn hlt
    cases q with
    | nil => cases hn
    | cons i q =>
      cases hi : roots[i]? with
      | none =>
        rw [nameFrom?, followFrom, hi] at hn
        cases hn
      | some t =>
        have hlen : i < roots.length := (List.getElem?_eq_some_iff.1 hi).1
        have hlt := hlt [i] (mem_stepsFrom.2 ⟨i, hlen, rfl⟩)
        exact absurd hlt (not_lt_of_isPrefix ⟨q, rfl⟩)
  reached := by
    intro n hn
    exact absurd hn List.not_mem_nil

theorem exists_cons (h : c.Frontier roots routes (t :: rest) visited) :
    ∃ r routes', routes = r :: routes' := by
  cases routes with
  | nil => exact absurd h.leads (by simp)
  | cons r routes => exact ⟨r, routes, rfl⟩

theorem follow_head (h : c.Frontier roots (r :: routes) (t :: rest) visited) :
    c.followFrom roots r = some t := (List.cons.inj h.leads).1

/-- Routes that go on from the first one come before the others. -/
theorem append_lt (h : c.Frontier roots (r :: routes) (t :: rest) visited) (s : List ℕ) :
    ∀ r' ∈ routes, r ++ s < r' :=
  fun r' hr' => (List.pairwise_cons.1 h.apart).1 r' hr' s

theorem head_lt (h : c.Frontier roots (r :: routes) (t :: rest) visited) :
    ∀ r' ∈ routes, r < r' := by
  intro r' hr'
  simpa using h.append_lt [] r' hr'

/-- A route that is passed as soon as the first pending type is done was passed before or goes on
from it. -/
theorem passed_or_append (h : c.Frontier roots (r :: routes) (t :: rest) visited) {q : List ℕ}
    (hq : c.followFrom roots q ≠ none) (hlt : ∀ r' ∈ routes, q < r') :
    (∀ r' ∈ r :: routes, q < r') ∨ ∃ s, q = r ++ s := by
  rcases h.covers q hq with hpassed | ⟨r', hr', hpre⟩
  · exact .inl hpassed
  · rcases List.mem_cons.1 hr' with rfl | hr'
    · obtain ⟨s, hs⟩ := hpre
      exact .inr ⟨s, hs.symm⟩
    · exact absurd (hlt r' hr') (not_lt_of_isPrefix hpre)

theorem followFrom_ne_none {q : List ℕ} {n : String} (h : c.nameFrom? roots q = some n) :
    c.followFrom roots q ≠ none := by
  intro hnone
  rw [nameFrom?, hnone] at h
  cases h

/-- A visited name has routes before that of the first pending type, and these do not lead on to
it. -/
theorem exists_passed (hc : c.Acyclic) (h : c.Frontier roots (r :: routes) (t :: rest) visited)
    {m : String} (hm : t.name? = some m) (hv : m ∈ visited) :
    ∃ q u, c.followFrom roots q = some u ∧ u.name? = t.name? ∧ ∀ s, q ++ s < r := by
  obtain ⟨q, hq, hlt⟩ := h.reached m hv
  obtain ⟨u, hu, hum⟩ := Option.bind_eq_some_iff.1 hq
  refine ⟨q, u, hu, hum.trans hm.symm, ?_⟩
  have hqr : q < r := hlt r List.mem_cons_self
  have hnot : ¬q <+: r := by
    -- the name would come up again on the way from `q` to `r`
    intro hpre
    obtain ⟨s, rfl⟩ := hpre
    have hs : s ≠ [] := by
      rintro rfl
      rw [List.append_nil] at hqr
      exact lt_irrefl q hqr
    apply hc u m s hum hs
    rw [← nameFrom?_append hu, nameFrom?, h.follow_head, Option.bind_some, hm]
  exact append_lt_of_not_isPrefix hqr hnot

/-- All that a type of a visited name leads to is visited, because it has routes that were
passed. -/
theorem mem_visited_of_again (hc : c.Acyclic)
    (h : c.Frontier roots (r :: routes) (t :: rest) visited) {m : String}
    (hm : t.name? = some m) (hv : m ∈ visited) {s : List ℕ} {n : String}
    (hn : c.nameFrom? roots (r ++ s) = some n) : n ∈ visited := by
  obtain ⟨q, u, hu, hname, hbefore⟩ := h.exists_passed hc hm hv
  have hq : c.nameFrom? roots (q ++ s) = some n := by
    rw [nameFrom?_append hu, hc.nameAt?_congr hname, ← nameFrom?_append h.follow_head, hn]
  apply h.passed (q ++ s) n hq
  intro r' hr'
  rcases List.mem_cons.1 hr' with rfl | hr'
  · exact hbefore s
  · exact (hbefore s).trans (h.head_lt r' hr')

/-- A type of a visited name may be passed over. -/
theorem again (hc : c.Acyclic) (h : c.Frontier roots (r :: routes) (t :: rest) visited) {m : String}
    (hm : t.name? = some m) (hv : m ∈ visited) : c.Frontier roots routes rest visited where
  leads := (List.cons.inj h.leads).2
  apart := (List.pairwise_cons.1 h.apart).2
  covers := by
    intro q hq
    rcases h.covers q hq with hpassed | ⟨r', hr', s, rfl⟩
    · exact .inl fun r' hr' => hpassed r' (List.mem_cons_of_mem _ hr')
    · rcases List.mem_cons.1 hr' with rfl | hr'
      · exact .inl (h.append_lt s)
      · exact .inr ⟨r', hr', List.prefix_append _ _⟩
  passed := by
    intro q n hn hlt
    rcases h.passed_or_append (followFrom_ne_none hn) hlt with hpassed | ⟨s, rfl⟩
    · exact h.passed q n hn hpassed
    · exact h.mem_visited_of_again hc hm hv hn
  reached := by
    intro n hn
    obtain ⟨q, hq, hlt⟩ := h.reached n hn
    exact ⟨q, hq, fun r' hr' => hlt r' (List.mem_cons_of_mem _ hr')⟩

/-- Routes that were passed stay passed when a type gives way to its supertypes. -/
theorem lt_stepsFrom {q : List ℕ} (hq : ∀ r' ∈ r :: routes, q < r') (k : ℕ) :
    ∀ p ∈ stepsFrom r k ++ routes, q < p := by
  intro p hp
  rcases List.mem_append.1 hp with hp | hp
  · obtain ⟨i, -, rfl⟩ := mem_stepsFrom.1 hp
    exact (hq r List.mem_cons_self).trans (lt_append (List.cons_ne_nil i []))
  · exact hq p (List.mem_cons_of_mem _ hp)

/-- The route to the type itself is passed then. -/
theorem head_lt_stepsFrom (h : c.Frontier roots (r :: routes) (t :: rest) visited) (k : ℕ) :
    ∀ p ∈ stepsFrom r k ++ routes, r < p := by
  intro p hp
  rcases List.mem_append.1 hp with hp | hp
  · obtain ⟨i, -, rfl⟩ := mem_stepsFrom.1 hp
    exact lt_append (List.cons_ne_nil i [])
  · exact h.head_lt p hp

/-- A longer route goes on through one of the supertypes. -/
theorem step_mem_stepsFrom (h : c.Frontier roots (r :: routes) (t :: rest) visited) {i : ℕ}
    {s : List ℕ} (hq : c.followFrom roots (r ++ i :: s) ≠ none) :
    r ++ [i] ∈ stepsFrom r (c.supertypesOf t).length := by
  refine mem_stepsFrom.2 ⟨i, ?_, rfl⟩
  by_contra hi
  apply hq
  rw [followFrom_append h.follow_head, follow, List.getElem?_eq_none (Nat.le_of_not_lt hi),
    Option.bind_none]

/-- A visit puts the supertypes in place of a type. -/
theorem expand (h : c.Frontier roots (r :: routes) (t :: rest) visited) :
    c.Frontier roots (stepsFrom r (c.supertypesOf t).length ++ routes) (c.supertypesOf t ++ rest)
      (t.name?.toList ++ visited) where
  leads := by
    rw [List.map_append, List.map_append, (List.cons.inj h.leads).2, stepsFrom, List.map_map,
      ← map_getElem?_range (c.supertypesOf t)]
    refine congrArg (· ++ _) (List.map_congr_left fun i _ => ?_)
    rw [Function.comp_apply, followFrom_append h.follow_head, follow,
      funext fun u => follow.eq_1 c u, Option.bind_fun_some]
  apart := by
    rw [List.pairwise_append, stepsFrom, List.pairwise_map]
    refine ⟨List.pairwise_lt_range.imp fun hij s => ?_, (List.pairwise_cons.1 h.apart).2, ?_⟩
    · rw [List.append_assoc]
      exact List.append_left_lt (List.cons_lt_cons_iff.2 (.inl hij))
    · intro p hp r' hr' s
      obtain ⟨i, -, rfl⟩ := mem_stepsFrom.1 hp
      rw [List.append_assoc]
      exact h.append_lt _ r' hr'
  covers := by
    intro q hq
    rcases h.covers q hq with hpassed | ⟨r', hr', s, rfl⟩
    · exact .inl (lt_stepsFrom hpassed _)
    · rcases List.mem_cons.1 hr' with rfl | hr'
      · cases s with
        | nil =>
          rw [List.append_nil]
          exact .inl (h.head_lt_stepsFrom _)
        | cons i s =>
          refine .inr ⟨r' ++ [i], List.mem_append_left _ (h.step_mem_stepsFrom hq), ⟨s, ?_⟩⟩
          rw [List.append_assoc, List.singleton_append]
      · exact .inr ⟨r', List.mem_append_right _ hr', List.prefix_append _ _⟩
  passed := by
    intro q n hn hlt
    have hq := followFrom_ne_none hn
    rcases h.passed_or_append hq fun r' hr' => hlt r' (List.mem_append_right _ hr') with
      hpassed | ⟨s, rfl⟩
    · exact List.mem_append_right _ (h.passed q n hn hpassed)
    · cases s with
      | nil =>
        rw [List.append_nil, nameFrom?, h.follow_head, Option.bind_some] at hn
        rw [hn]
        exact List.mem_append_left _ List.mem_cons_self
      | cons i s =>
        refine absurd (hlt _ (List.mem_append_left _ (h.step_mem_stepsFrom hq))) ?_
        refine not_lt_of_isPrefix ⟨s, ?_⟩
        rw [List.append_assoc, List.singleton_append]
  reached := by
    intro n hn
    rcases List.mem_append.1 hn with hn | hn
    · refine ⟨r, ?_, h.head_lt_stepsFrom _⟩
      rw [nameFrom?, h.follow_head, Option.bind_some]
      exact Option.mem_toList.1 hn
    · obtain ⟨q, hq, hlt⟩ := h.reached n hn
      exact ⟨q, hq, lt_stepsFrom hlt _⟩

end Frontier

/-! ### The first of several types -/

/-- The first of the types whose name has a property is the one of the name `n`. -/
def FirstNamed (P : String → Prop) (us : List JavaType) (n : String) : Prop :=
  ∃ before u after, us = before ++ u :: after ∧ (∀ v ∈ before, ∀ k, v.name? = some k → ¬P k) ∧
    u.name? = some n ∧ P n

/-- The first route to a name with a property leads to the name `n`. -/
def FirstRouted (c : Catalog) (roots : List JavaType) (P : String → Prop) (n : String) : Prop :=
  P n ∧ ∃ r, c.nameFrom? roots r = some n ∧
    ∀ q k, c.nameFrom? roots q = some k → P k → ¬q < r

theorem FirstNamed.cons {P : String → Prop} {us : List JavaType} {n : String}
    (h : FirstNamed P us n) {t : JavaType} (ht : ∀ k, t.name? = some k → ¬P k) :
    FirstNamed P (t :: us) n := by
  obtain ⟨before, u, after, rfl, hbefore, hu⟩ := h
  refine ⟨t :: before, u, after, rfl, ?_, hu⟩
  intro v hv
  rcases List.mem_cons.1 hv with rfl | hv
  · exact ht
  · exact hbefore v hv

/-- **Visits follow first routes.** If some route leads to a declared name with a property, the
first visited type with such a name is the one at the first such route. -/
theorem Frontier.exists_first {c : Catalog} (hc : c.Acyclic) {P : String → Prop}
    (hP : ∀ n, P n → c.find? n ≠ none) {roots pending us : List JavaType}
    {routes : List (List ℕ)} {visited : List String} (hvisits : c.Visits pending visited us)
    (h : c.Frontier roots routes pending visited) (hvisited : ∀ n ∈ visited, ¬P n)
    (hsome : ∃ q n, c.nameFrom? roots q = some n ∧ P n) :
    ∃ n, FirstNamed P us n ∧ c.FirstRouted roots P n := by
  induction hvisits generalizing routes with
  | done visited =>
    obtain ⟨q, n, hq, hn⟩ := hsome
    have hroutes : routes = [] := by simpa using h.leads
    subst hroutes
    have hpassed : ∀ r ∈ [], q < r := fun r hr => absurd hr List.not_mem_nil
    exact absurd hn (hvisited n (h.passed q n hq hpassed))
  | @nameless t rest us visited hn _ ih =>
    obtain ⟨r, routes, rfl⟩ := h.exists_cons
    have hnext := h.expand
    rw [supertypesOf_nameless hn, hn] at hnext
    exact ih hnext hvisited
  | @again t rest us visited n hn hv _ ih =>
    obtain ⟨r, routes, rfl⟩ := h.exists_cons
    exact ih (h.again hc hn hv) hvisited
  | @undeclared t rest us visited n hn hv hd _ ih =>
    obtain ⟨r, routes, rfl⟩ := h.exists_cons
    have hnext := h.expand
    rw [supertypesOf_undeclared hn hd, hn] at hnext
    apply ih hnext
    intro m hm
    rcases List.mem_cons.1 hm with rfl | hm
    · exact fun hPm => hP m hPm hd
    · exact hvisited m hm
  | @first t rest us visited n d hn hv hd _ ih =>
    obtain ⟨r, routes, rfl⟩ := h.exists_cons
    by_cases hPn : P n
    · refine ⟨n, ⟨[], t, us, rfl, fun v hv => absurd hv List.not_mem_nil, hn, hPn⟩, hPn, r, ?_, ?_⟩
      · rw [nameFrom?, h.follow_head, Option.bind_some, hn]
      · -- a route before `r` was passed, so the name at its end was visited
        intro q k hq hPk hlt
        have hpassed : ∀ r' ∈ r :: routes, q < r' := by
          intro r' hr'
          rcases List.mem_cons.1 hr' with rfl | hr'
          · exact hlt
          · exact hlt.trans (h.head_lt r' hr')
        exact hvisited k (h.passed q k hq hpassed) hPk
    · have hnext := h.expand
      rw [hn] at hnext
      have hvisited' : ∀ m ∈ n :: visited, ¬P m := by
        intro m hm
        rcases List.mem_cons.1 hm with rfl | hm
        · exact hPn
        · exact hvisited m hm
      obtain ⟨m, hnamed, hrouted⟩ := ih hnext hvisited'
      refine ⟨m, hnamed.cons ?_, hrouted⟩
      intro k hk
      rwa [← Option.some.inj (hn.symm.trans hk)]

end Catalog

end BuilderPlanner
