import BuilderPlanner.Name.Identifier

/-!
# Identifiers and qualified names

* `isIdentifier_iff` — an identifier has the shape of one and is not reserved;
* `ContinuesIdentifier`, `FreeStart.isIdentifier_append` — what may follow the beginning of an
  identifier;
* `IsDotted`, `isQualified_iff` — a qualified name is made of identifiers with dots between them.
-/

namespace BuilderPlanner

/-! ### Identifiers -/

theorem isIdentifier_iff {name : String} :
    isIdentifier name = true ↔ identifierShaped name.toList = true ∧ name ∉ reservedWords := by
  simp [isIdentifier]

theorem identifierShaped_cons {c : Char} {rest : List Char} :
    identifierShaped (c :: rest) = true ↔
      beginsIdentifier c = true ∧ ∀ x ∈ rest, continuesIdentifier x = true := by
  simp [identifierShaped]

/-- Every character of an identifier is one that may continue identifiers. -/
theorem continuesIdentifier_of_mem {cs : List Char} (h : identifierShaped cs = true) {x : Char}
    (hx : x ∈ cs) : continuesIdentifier x = true := by
  cases cs with
  | nil => exact absurd hx List.not_mem_nil
  | cons c rest =>
    obtain ⟨hc, hrest⟩ := identifierShaped_cons.1 h
    rcases List.mem_cons.1 hx with rfl | hx
    · rw [continuesIdentifier, hc, Bool.true_or]
    · exact hrest x hx

/-- A text that may stand in an identifier after its first character. -/
def ContinuesIdentifier (name : String) : Prop := ∀ x ∈ name.toList, continuesIdentifier x = true

instance {name : String} : Decidable (ContinuesIdentifier name) :=
  decidable_of_iff (name.toList.all continuesIdentifier = true) List.all_eq_true

theorem continuesIdentifier_of_isIdentifier {name : String} (h : isIdentifier name = true) :
    ContinuesIdentifier name :=
  fun _ hx => continuesIdentifier_of_mem (isIdentifier_iff.1 h).1 hx

theorem continuesIdentifier_append {s t : String} :
    ContinuesIdentifier (s ++ t) ↔ ContinuesIdentifier s ∧ ContinuesIdentifier t := by
  simp only [ContinuesIdentifier, String.toList_append, List.forall_mem_append]

/-- A beginning of identifiers with which no reserved word begins. -/
structure FreeStart (start : String) : Prop where
  shaped : identifierShaped start.toList = true
  free : ∀ w ∈ reservedWords, ¬start.toList <+: w.toList

instance {start : String} : Decidable (FreeStart start) :=
  decidable_of_iff (identifierShaped start.toList = true ∧
      ∀ w ∈ reservedWords, ¬start.toList <+: w.toList)
    ⟨fun h => ⟨h.1, h.2⟩, fun h => ⟨h.shaped, h.free⟩⟩

/-- Any text of identifier characters may follow such a beginning. -/
theorem FreeStart.isIdentifier_append {start rest : String} (h : FreeStart start) :
    isIdentifier (start ++ rest) = true ↔ ContinuesIdentifier rest := by
  obtain ⟨hshaped, hfree⟩ := h
  have hreserved : start ++ rest ∉ reservedWords := by
    intro hmem
    refine hfree _ hmem ?_
    rw [String.toList_append]
    exact List.prefix_append _ _
  rw [isIdentifier_iff, and_iff_left hreserved, String.toList_append]
  cases hstart : start.toList with
  | nil =>
    rw [hstart] at hshaped
    cases hshaped
  | cons c tail =>
    rw [hstart, identifierShaped_cons] at hshaped
    rw [List.cons_append, identifierShaped_cons, and_iff_right hshaped.1, List.forall_mem_append,
      and_iff_right hshaped.2, ContinuesIdentifier]

/-! ### Qualified names -/

theorem segments_eq_splitOn (cs : List Char) : segments cs = cs.splitOn '.' := by
  induction cs with
  | nil => rfl
  | cons c rest ih =>
    rw [segments, List.splitOn_cons_eq_if_modifyHead, ← ih]
    by_cases hc : c = '.'
    · rw [if_pos hc, if_pos (beq_iff_eq.2 hc)]
    · rw [if_neg hc, if_neg fun h => hc (beq_iff_eq.1 h)]
      cases hsegments : segments rest with
      | nil => exact absurd (ih ▸ hsegments) (List.splitOn_ne_nil _ _)
      | cons s more => rfl

/-- A character that continues no identifier is in none. -/
theorem not_mem_of_isIdentifier {name : String} (h : isIdentifier name = true) {c : Char}
    (hc : continuesIdentifier c = false) : c ∉ name.toList := by
  intro hmem
  rw [continuesIdentifier_of_isIdentifier h c hmem] at hc
  exact Bool.noConfusion hc

theorem dot_not_mem_of_isIdentifier {name : String} (h : isIdentifier name = true) :
    '.' ∉ name.toList :=
  not_mem_of_isIdentifier h (by decide +kernel)

/-- A name that is made of identifiers with dots between them. -/
def IsDotted (name : String) : Prop :=
  ∃ parts, parts ≠ [] ∧ (∀ p ∈ parts, isIdentifier p = true) ∧ name = ".".intercalate parts

theorem isQualified_iff {name : String} : isQualified name = true ↔ IsDotted name := by
  rw [isQualified, segments_eq_splitOn, List.all_eq_true]
  constructor
  · intro h
    refine ⟨(name.toList.splitOn '.').map String.ofList, ?_, ?_, ?_⟩
    · rw [Ne, List.map_eq_nil_iff]
      exact List.splitOn_ne_nil _ _
    · intro p hp
      obtain ⟨s, hs, rfl⟩ := List.mem_map.1 hp
      exact h s hs
    · apply String.toList_injective
      rw [String.toList_intercalate, List.map_map]
      have hlist : String.toList ∘ String.ofList = id := by
        funext s
        exact String.toList_ofList
      rw [hlist, List.map_id]
      exact (List.intercalate_splitOn '.').symm
  · intro h s hs
    obtain ⟨parts, hne, hparts, rfl⟩ := h
    have hdots : ∀ l ∈ parts.map String.toList, '.' ∉ l := by
      intro l hl
      obtain ⟨p, hp, rfl⟩ := List.mem_map.1 hl
      exact dot_not_mem_of_isIdentifier (hparts p hp)
    rw [String.toList_intercalate, show ".".toList = ['.'] from rfl,
      List.splitOn_intercalate '.' hdots fun h => hne (List.map_eq_nil_iff.1 h)] at hs
    obtain ⟨p, hp, rfl⟩ := List.mem_map.1 hs
    rw [String.ofList_toList]
    exact hparts p hp

end BuilderPlanner
