import BuilderPlanner.Catalog.Pick

/-!
# Alternatives of names are pairwise different

* `alternativeName_inj` — an alternative tells its name and its number;
* `alternativeName_ne` — no name is an alternative of itself;
* `exists_alternative_of_pick` — a name that a pick does not keep becomes one of its alternatives;
* `alternatives_never_meet` — so different names never give way to the same name.

An alternative ends in a letter and a run of digits. The run is as long as possible, because the
letter before it is no digit, so it can be cut off again.
-/

namespace BuilderPlanner

/-! ### The digits at the end -/

/-- The number of an alternative as it is written. -/
def alternativeDigits (number : Nat) : List Char :=
  if number ≤ 1 then [] else Nat.toDigits 10 number

theorem isDigit_of_mem_alternativeDigits {number : Nat} {c : Char}
    (h : c ∈ alternativeDigits number) : c.isDigit = true := by
  unfold alternativeDigits at h
  split at h
  · simp at h
  · exact Nat.isDigit_of_mem_toDigits (by decide) (by decide) h

theorem alternativeDigits_inj {m n : Nat} (hm : 1 ≤ m) (hn : 1 ≤ n)
    (h : alternativeDigits m = alternativeDigits n) : m = n := by
  have value : ∀ k, 1 < k → Nat.ofDigitChars 10 (alternativeDigits k) 0 = k := by
    intro k hk
    rw [alternativeDigits, if_neg (by omega)]
    exact Nat.ofDigitChars_toDigits (by decide) (by decide)
  have empty : ∀ k, 1 < k → alternativeDigits k ≠ [] := by
    intro k hk
    rw [alternativeDigits, if_neg (by omega)]
    exact Nat.toDigits_ne_nil
  rcases Nat.lt_or_ge 1 m with hm' | hm' <;> rcases Nat.lt_or_ge 1 n with hn' | hn'
  · rw [← value m hm', h, value n hn']
  · exact absurd (h.trans (if_pos hn')) (empty m hm')
  · exact absurd (h.symm.trans (if_pos hm')) (empty n hn')
  · omega

/-! ### The parts of an alternative -/

theorem toList_alternativeName (name : String) (number : Nat) :
    (alternativeName name number).toList =
      ('_' :: name.toList ++ ['I', 'm', 'p']) ++ 'l' :: alternativeDigits number := by
  unfold alternativeName alternativeDigits
  split
  · simp
  · simp

/-- A letter before a run of digits at the end of a text marks where the run begins. -/
theorem append_digits_inj {as bs ds es : List Char} {l : Char} (hl : l.isDigit = false)
    (hd : ∀ c ∈ ds, c.isDigit = true) (he : ∀ c ∈ es, c.isDigit = true)
    (h : as ++ l :: ds = bs ++ l :: es) : as = bs ∧ ds = es := by
  have letter : ∀ cs : List Char, (∀ c ∈ cs, c.isDigit = true) → l ∉ cs := by
    intro cs hcs hmem
    rw [hcs l hmem] at hl
    exact Bool.noConfusion hl
  rcases List.append_eq_append_iff.1 h with ⟨cs, hbs, hds⟩ | ⟨cs, has, hes⟩
  · cases cs with
    | nil => simpa [eq_comm, hbs] using hds
    | cons c cs =>
      obtain ⟨-, hds⟩ := List.cons.inj hds
      exact absurd (hds ▸ by simp) (letter ds hd)
  · cases cs with
    | nil => simpa [eq_comm, has] using hes
    | cons c cs =>
      obtain ⟨-, hes⟩ := List.cons.inj hes
      exact absurd (hes ▸ by simp) (letter es he)

/-! ### Different alternatives -/

theorem alternativeName_inj {p q : String} {m n : Nat} (hm : 1 ≤ m) (hn : 1 ≤ n)
    (h : alternativeName p m = alternativeName q n) : p = q ∧ m = n := by
  have h := congrArg String.toList h
  rw [toList_alternativeName, toList_alternativeName] at h
  obtain ⟨hnames, hdigits⟩ := append_digits_inj (by decide)
    (fun _ => isDigit_of_mem_alternativeDigits) (fun _ => isDigit_of_mem_alternativeDigits) h
  refine ⟨String.toList_injective ?_, alternativeDigits_inj hm hn hdigits⟩
  simpa using hnames

theorem alternativeName_ne (name : String) (number : Nat) : alternativeName name number ≠ name := by
  intro h
  have hlength := congrArg (fun s => s.toList.length) h
  simp only [toList_alternativeName, List.length_append, List.length_cons] at hlength
  omega

/-! ### Names that give way -/

theorem one_le_firstOpen (name : String) (blocked : List String) : 1 ≤ firstOpen name blocked := by
  unfold firstOpen
  cases hfind : (List.range' 1 (blocked.length + 1)).find? fun n =>
      !blocked.contains (alternativeName name n) with
  | none => exact Nat.le_refl 1
  | some n =>
    have hmem := List.mem_of_find?_eq_some hfind
    exact (List.mem_range'_1.1 hmem).1

/-- A name that a pick does not keep becomes one of its alternatives. -/
theorem exists_alternative_of_pick {members : List Member} {returns : JavaType} {preferred : String}
    (h : (pickName members returns preferred).name ≠ preferred) :
    ∃ n, 1 ≤ n ∧ (pickName members returns preferred).name = alternativeName preferred n := by
  unfold pickName at h ⊢
  split at h
  · exact absurd rfl h
  · split at h
    · exact absurd rfl h
    · exact ⟨_, one_le_firstOpen preferred _, rfl⟩

/-- **Alternatives of names never meet.** Whatever the names look like, an alternative tells the name
that it stands for and its number, and it is not this name. So two different names that give way,
among the same members or others, become different names. -/
theorem alternatives_never_meet (p q : String) :
    (∀ m n, 1 ≤ m → 1 ≤ n → (alternativeName p m = alternativeName q n ↔ p = q ∧ m = n)) ∧
      (∀ n, 1 ≤ n → alternativeName p n ≠ p) ∧
      ∀ members members' returns returns',
        (pickName members returns p).name ≠ p → (pickName members' returns' q).name ≠ q →
          (pickName members returns p).name = (pickName members' returns' q).name → p = q := by
  refine ⟨?_, fun n _ => alternativeName_ne p n, ?_⟩
  · intro m n hm hn
    refine ⟨alternativeName_inj hm hn, ?_⟩
    rintro ⟨rfl, rfl⟩
    rfl
  · intro members members' returns returns' hp hq heq
    obtain ⟨m, hm, hpick⟩ := exists_alternative_of_pick hp
    obtain ⟨n, hn, hpick'⟩ := exists_alternative_of_pick hq
    rw [hpick, hpick'] at heq
    exact (alternativeName_inj hm hn heq).1

/-- A private method without parameters. -/
def privateMember (name : String) : Member :=
  ⟨name, "a.Builder", [], .plain "int", .owner, [], false⟩

/-- Names that look like alternatives of each other, with their alternatives, give way to different
names. -/
theorem alternatives_of_lookalikes :
    let members := ["size", "_sizeImpl", "sizeImpl1"].map privateMember
    let returns := JavaType.plain "int"
    (pickName members returns "size").name = "_sizeImpl2" ∧
      (pickName members returns "sizeImpl1").name = "_sizeImpl1Impl" ∧
      alternativeName "size" 12 ≠ alternativeName "sizeImpl1" 2 ∧
      (pickName members returns "size").name ≠ (pickName members returns "sizeImpl1").name := by
  intro members returns
  have hsize : (pickName members returns "size").name = "_sizeImpl2" := by decide +kernel
  have hother : (pickName members returns "sizeImpl1").name = "_sizeImpl1Impl" := by decide +kernel
  have hne : "size" ≠ "sizeImpl1" := by decide
  obtain ⟨hnames, -, hpicks⟩ := alternatives_never_meet "size" "sizeImpl1"
  refine ⟨hsize, hother, ?_, ?_⟩
  · intro heq
    exact hne ((hnames 12 2 (by decide) (by decide)).1 heq).1
  · intro heq
    refine hne (hpicks members members returns returns ?_ ?_ heq)
    · rw [hsize]
      decide
    · rw [hother]
      decide

end BuilderPlanner
