/-!
# Computations that succeed or fail

What is known of the parts of a computation that may fail once it has a result, or a cause.

* `bind_eq_ok_iff`, `check_bind_eq_ok_iff`, `map_eq_ok_iff`, `mapError_eq_ok_iff` — by the form of
  the computation;
* `bind_eq_error_iff`, `mapError_eq_error_iff` — the same for those that fail;
* `mapM_cons_eq_ok_iff`, `mapM_map_eq_ok`, `exists_of_mem_of_mapM_eq_ok`, `map_eq_of_mapM_eq_ok` —
  the results of a list of computations;
* `exists_mapM_eq_ok_iff`, `forM_eq_ok_iff` — a list of computations succeeds if each of them does;
* `exists_of_eval` — by evaluation.
-/

namespace BuilderPlanner

theorem bind_eq_ok_iff {ε α β : Type} {x : Except ε α} {f : α → Except ε β} {b : β} :
    (x >>= f) = .ok b ↔ ∃ a, x = .ok a ∧ f a = .ok b := by
  cases x with
  | error e =>
    constructor
    · intro h
      cases h
    · intro h
      obtain ⟨a, h, -⟩ := h
      cases h
  | ok a =>
    constructor
    · intro h
      exact ⟨a, rfl, h⟩
    · intro h
      obtain ⟨a', h, hf⟩ := h
      cases h
      exact hf

/-- A computation behind a check. -/
theorem check_bind_eq_ok_iff {ε α : Type} {x : Except ε Unit} {f : Unit → Except ε α} {a : α} :
    (x >>= f) = .ok a ↔ x = .ok () ∧ f () = .ok a := by
  rw [bind_eq_ok_iff]
  constructor
  · intro h
    obtain ⟨_, h⟩ := h
    exact h
  · intro h
    exact ⟨(), h⟩

theorem map_eq_ok_iff {ε α β : Type} {f : α → β} {x : Except ε α} {b : β} :
    f <$> x = .ok b ↔ ∃ a, x = .ok a ∧ f a = b := by
  cases x with
  | error e =>
    constructor
    · intro h
      cases h
    · intro h
      obtain ⟨a, h, -⟩ := h
      cases h
  | ok a =>
    constructor
    · intro h
      cases h
      exact ⟨a, rfl, rfl⟩
    · intro h
      obtain ⟨a', h, rfl⟩ := h
      cases h
      rfl

theorem mapError_eq_ok_iff {ε δ α : Type} {f : ε → δ} {x : Except ε α} {a : α} :
    x.mapError f = .ok a ↔ x = .ok a := by
  cases x with
  | error e =>
    constructor
    · intro h
      cases h
    · intro h
      cases h
  | ok a' =>
    constructor
    · intro h
      cases h
      rfl
    · intro h
      cases h
      rfl

theorem toOption_eq_some_iff {ε α : Type} {x : Except ε α} {a : α} :
    x.toOption = some a ↔ x = .ok a := by
  cases x with
  | error e => simp [Except.toOption]
  | ok a' => simp [Except.toOption]

/-- A check that succeeds by evaluation. -/
theorem exists_of_eval {ε α : Type} (x : Except ε α) (p : α → Prop) [DecidablePred p]
    (h : x.toOption.any (p ·) = true) : ∃ a, x = .ok a ∧ p a := by
  cases x with
  | error e => cases h
  | ok a => exact ⟨a, rfl, of_decide_eq_true h⟩

/-! ### Computations that fail -/

/-- A computation fails in its first part, or in what comes behind the result of this. -/
theorem bind_eq_error_iff {ε α β : Type} {x : Except ε α} {f : α → Except ε β} {e : ε} :
    (x >>= f) = .error e ↔ x = .error e ∨ ∃ a, x = .ok a ∧ f a = .error e := by
  cases x with
  | error e' =>
    constructor
    · intro h
      cases h
      exact .inl rfl
    · rintro (h | ⟨a, h, -⟩)
      · cases h
        rfl
      · cases h
  | ok a =>
    constructor
    · intro h
      exact .inr ⟨a, rfl, h⟩
    · rintro (h | ⟨a', h, hf⟩)
      · cases h
      · cases h
        exact hf

theorem mapError_eq_error_iff {ε δ α : Type} {f : ε → δ} {x : Except ε α} {d : δ} :
    x.mapError f = .error d ↔ ∃ e, x = .error e ∧ f e = d := by
  cases x with
  | error e =>
    constructor
    · intro h
      cases h
      exact ⟨e, rfl, rfl⟩
    · rintro ⟨e', h, rfl⟩
      cases h
      rfl
  | ok a =>
    constructor
    · intro h
      cases h
    · rintro ⟨e, h, -⟩
      cases h

/-! ### Lists of computations -/

theorem mapM_cons_eq_ok_iff {ε α β : Type} {f : α → Except ε β} {x : α} {xs : List α}
    {zs : List β} :
    (x :: xs).mapM f = .ok zs ↔ ∃ y, f x = .ok y ∧ ∃ ys, xs.mapM f = .ok ys ∧ y :: ys = zs := by
  rw [List.mapM_cons, bind_eq_ok_iff]
  refine exists_congr fun y => and_congr_right fun _ => ?_
  rw [bind_eq_ok_iff]
  refine exists_congr fun ys => and_congr_right fun _ => ?_
  constructor
  · intro h
    cases h
    rfl
  · intro h
    rw [h]
    rfl

/-- Computations that give back what their inputs were made of. -/
theorem mapM_map_eq_ok {ε α β : Type} {f : α → Except ε β} {g : β → α} (h : ∀ y, f (g y) = .ok y)
    (ys : List β) : (ys.map g).mapM f = .ok ys := by
  induction ys with
  | nil => rfl
  | cons y ys ih =>
    rw [List.map_cons]
    exact mapM_cons_eq_ok_iff.2 ⟨y, h y, ys, ih, rfl⟩

theorem exists_of_mem_of_mapM_eq_ok {ε α β : Type} {f : α → Except ε β} {xs : List α} {ys : List β}
    (h : xs.mapM f = .ok ys) {y : β} (hy : y ∈ ys) : ∃ x ∈ xs, f x = .ok y := by
  induction xs generalizing ys with
  | nil =>
    rw [List.mapM_nil] at h
    cases h
    exact absurd hy List.not_mem_nil
  | cons x xs ih =>
    obtain ⟨z, hz, zs, hzs, rfl⟩ := mapM_cons_eq_ok_iff.1 h
    rcases List.mem_cons.1 hy with rfl | hy
    · exact ⟨x, List.mem_cons_self, hz⟩
    · obtain ⟨x', hx', hfx'⟩ := ih hzs hy
      exact ⟨x', List.mem_cons_of_mem x hx', hfx'⟩

/-- What each result shares with what it was made from, in order. -/
theorem map_eq_of_mapM_eq_ok {ε α β γ : Type} {f : α → Except ε β} {g : β → γ} {k : α → γ}
    (hf : ∀ x y, f x = .ok y → g y = k x) {xs : List α} {ys : List β} (h : xs.mapM f = .ok ys) :
    ys.map g = xs.map k := by
  induction xs generalizing ys with
  | nil =>
    rw [List.mapM_nil] at h
    cases h
    rfl
  | cons x xs ih =>
    obtain ⟨z, hz, zs, hzs, rfl⟩ := mapM_cons_eq_ok_iff.1 h
    rw [List.map_cons, List.map_cons, hf x z hz, ih hzs]

/-- Results for all members of a list are a result for the list. -/
theorem exists_mapM_eq_ok_iff {ε α β : Type} {f : α → Except ε β} {xs : List α} :
    (∃ ys, xs.mapM f = .ok ys) ↔ ∀ x ∈ xs, ∃ y, f x = .ok y := by
  induction xs with
  | nil => simp [pure, Except.pure]
  | cons x xs ih =>
    rw [List.forall_mem_cons, ← ih]
    constructor
    · intro h
      obtain ⟨zs, h⟩ := h
      obtain ⟨y, hy, ys, hys, -⟩ := mapM_cons_eq_ok_iff.1 h
      exact ⟨⟨y, hy⟩, ys, hys⟩
    · intro h
      obtain ⟨⟨y, hy⟩, ys, hys⟩ := h
      exact ⟨y :: ys, mapM_cons_eq_ok_iff.2 ⟨y, hy, ys, hys, rfl⟩⟩

theorem forM_eq_ok_iff {ε α : Type} {f : α → Except ε Unit} {xs : List α} :
    xs.forM f = .ok () ↔ ∀ x ∈ xs, f x = .ok () := by
  induction xs with
  | nil => simp [pure, Except.pure]
  | cons x xs ih =>
    rw [List.forall_mem_cons, ← ih, List.forM_eq_forM, List.forM_cons, bind_eq_ok_iff]
    constructor
    · intro h
      obtain ⟨_, hx, hxs⟩ := h
      exact ⟨hx, hxs⟩
    · intro h
      exact ⟨(), h.1, h.2⟩

end BuilderPlanner
