import BuilderPlanner.NameMap
import Mathlib.Data.List.Nodup

/-!
# Searches by name

* `find?_key_eq_some_iff` — a search by a key that no two entries share;
* `NameMap.mem_of_mem_ofList`, `NameMap.contains_ofList` — a map holds the entries that it is made
  of and no others;
* `NameMap.find?_insert` — what is found once a name was given a value;
* `NameMap.ofList_entries` — a map is made of its own entries.
-/

namespace BuilderPlanner

/-- A search by a key that no two entries share finds the entry of this key. -/
theorem find?_key_eq_some_iff {α κ : Type} [DecidableEq κ] {key : α → κ} {entries : List α}
    (h : (entries.map key).Nodup) {k : κ} {a : α} :
    entries.find? (key · = k) = some a ↔ a ∈ entries ∧ key a = k := by
  constructor
  · intro hfind
    have hkey : key a = k := by simpa using List.find?_some hfind
    exact ⟨List.mem_of_find?_eq_some hfind, hkey⟩
  · intro hmem
    obtain ⟨ha, rfl⟩ := hmem
    cases hfind : entries.find? (key · = key a) with
    | none =>
      rw [List.find?_eq_none] at hfind
      exact absurd (decide_eq_true rfl) (hfind a ha)
    | some b =>
      have hkey : key b = key a := by simpa using List.find?_some hfind
      rw [List.inj_on_of_nodup_map h (List.mem_of_find?_eq_some hfind) ha hkey]

namespace NameMap

variable {α : Type}

theorem mem_of_find? {m : NameMap α} {name : String} {value : α} (h : m.find? name = some value) :
    (name, value) ∈ m.entries := by
  obtain ⟨l₁, l₂, heq, -⟩ := List.lookup_eq_some_iff.1 h
  rw [heq]
  exact List.mem_append_right l₁ List.mem_cons_self

/-- A search in a list whose values were mapped. -/
theorem lookup_map_snd {α β : Type} (f : α → β) (entries : List (String × α)) (name : String) :
    (entries.map (Prod.map id f)).lookup name = (entries.lookup name).map f := by
  induction entries with
  | nil => rfl
  | cons e rest ih =>
    rw [List.map_cons, List.lookup_cons, List.lookup_cons, ih, Prod.map_fst, id_eq]
    cases name == e.1 <;> rfl

theorem mem_of_mem_foldl_insert {entries : List (String × α)} {m : NameMap α} {e : String × α}
    (h : e ∈ (entries.foldl (fun m e => m.insert e.1 e.2) m).entries) :
    e ∈ entries ∨ e ∈ m.entries := by
  induction entries generalizing m with
  | nil => exact .inr h
  | cons entry rest ih =>
    rcases ih h with hrest | hinsert
    · exact .inl (List.mem_cons_of_mem entry hrest)
    · rcases mem_insertEntry hinsert with rfl | hm
      · exact .inl List.mem_cons_self
      · exact .inr hm

theorem mem_of_mem_ofList {entries : List (String × α)} {e : String × α}
    (h : e ∈ (ofList entries).entries) : e ∈ entries := by
  rcases mem_of_mem_foldl_insert h with h | h
  · exact h
  · exact absurd h List.not_mem_nil

theorem contains_iff_mem_names {m : NameMap α} {name : String} :
    m.contains name = true ↔ name ∈ m.names := by
  rw [contains, find?, List.lookup_isSome_iff, names, List.mem_map]
  simp only [beq_iff_eq, @eq_comm _ name]

theorem lookup_insertEntry_self (name : String) (value : α) (entries : List (String × α)) :
    (insertEntry name value entries).lookup name = some value := by
  induction entries with
  | nil => rw [insertEntry, List.lookup_cons, beq_self_eq_true]
  | cons entry rest ih =>
    rw [insertEntry]
    split
    · rw [List.lookup_cons, beq_self_eq_true]
    · split
      · rw [List.lookup_cons, beq_self_eq_true]
      · rename_i hne
        rw [List.lookup_cons, beq_eq_false_iff_ne.2 hne, ih]

theorem lookup_insertEntry_of_ne {name n : String} (hn : n ≠ name) (value : α)
    (entries : List (String × α)) :
    (insertEntry name value entries).lookup n = entries.lookup n := by
  have hfirst : ∀ rest : List (String × α), ((name, value) :: rest).lookup n = rest.lookup n := by
    intro rest
    rw [List.lookup_cons, beq_eq_false_iff_ne.2 hn]
  induction entries with
  | nil => exact hfirst []
  | cons entry rest ih =>
    rw [insertEntry]
    split
    · exact hfirst _
    · split
      · rename_i heq
        rw [hfirst, List.lookup_cons, ← heq, beq_eq_false_iff_ne.2 hn]
      · rw [List.lookup_cons, List.lookup_cons, ih]

theorem find?_insert_self (m : NameMap α) (name : String) (value : α) :
    (m.insert name value).find? name = some value :=
  lookup_insertEntry_self name value m.entries

theorem find?_insert_of_ne (m : NameMap α) {name n : String} (hn : n ≠ name) (value : α) :
    (m.insert name value).find? n = m.find? n :=
  lookup_insertEntry_of_ne hn value m.entries

theorem contains_insert {m : NameMap α} {name n : String} {value : α} :
    (m.insert name value).contains n = true ↔ n = name ∨ m.contains n = true := by
  unfold contains
  by_cases hn : n = name
  · rw [hn, find?_insert_self]
    exact ⟨fun _ => .inl rfl, fun _ => rfl⟩
  · rw [find?_insert_of_ne m hn]
    exact (or_iff_right hn).symm

theorem contains_foldl_insert {entries : List (String × α)} {m : NameMap α} {n : String} :
    (entries.foldl (fun m e => m.insert e.1 e.2) m).contains n = true ↔
      n ∈ entries.map Prod.fst ∨ m.contains n = true := by
  induction entries generalizing m with
  | nil => simp
  | cons e rest ih =>
    rw [List.foldl_cons, ih, contains_insert, List.map_cons, List.mem_cons, or_left_comm, or_assoc]

/-- A map has the names of the entries that it is made of. -/
theorem contains_ofList {entries : List (String × α)} {n : String} :
    (ofList entries).contains n = true ↔ n ∈ entries.map Prod.fst := by
  rw [ofList, contains_foldl_insert]
  exact or_iff_left Bool.false_ne_true

/-! ### Entries in ascending order -/

/-- An entry after all others is put at the end. -/
theorem insertEntry_of_lt {name : String} {value : α} {entries : List (String × α)}
    (h : ∀ e ∈ entries, e.1 < name) :
    insertEntry name value entries = entries ++ [(name, value)] := by
  induction entries with
  | nil => rfl
  | cons entry rest ih =>
    have hlt := h entry List.mem_cons_self
    have hne : name ≠ entry.1 := by
      intro heq
      exact String.lt_irrefl entry.1 (heq ▸ hlt)
    rw [insertEntry, if_neg (String.lt_asymm hlt), if_neg hne,
      ih fun e he => h e (List.mem_cons_of_mem entry he), List.cons_append]

theorem entries_foldl_insert {m : NameMap α} {entries : List (String × α)}
    (h : (m.entries ++ entries).Pairwise fun a b => a.1 < b.1) :
    (entries.foldl (fun m e => m.insert e.1 e.2) m).entries = m.entries ++ entries := by
  induction entries generalizing m with
  | nil => rw [List.foldl_nil, List.append_nil]
  | cons e rest ih =>
    have hlast : (m.insert e.1 e.2).entries = m.entries ++ [e] := by
      refine insertEntry_of_lt fun a ha => ?_
      exact (List.pairwise_append.1 h).2.2 a ha e List.mem_cons_self
    have hrest : m.entries ++ e :: rest = (m.insert e.1 e.2).entries ++ rest := by
      rw [hlast, List.append_assoc, List.singleton_append]
    rw [List.foldl_cons, ih (hrest ▸ h), hrest]

/-- A map is made of its own entries. -/
theorem ofList_entries (m : NameMap α) : ofList m.entries = m := by
  have hentries : (ofList m.entries).entries = m.entries := by
    rw [ofList, entries_foldl_insert (m := empty) m.ascending]
    rfl
  cases hm : ofList m.entries
  cases m
  simp_all

end NameMap

end BuilderPlanner
