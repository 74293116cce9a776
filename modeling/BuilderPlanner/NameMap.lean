/-!
# Maps from names

A map from names to values, kept as a list in ascending order of the names (by code points).

* `NameMap` — the maps, and `NameMap.entries` — their view as a list;
* `NameMap.insert`, `NameMap.ofList` — a later value of a name replaces an earlier one;
* `NameMap.find?` — the value of a name.
-/

namespace BuilderPlanner

/-- Puts an entry at its place, in place of an entry of the same name. -/
def insertEntry {α : Type} (name : String) (value : α) : List (String × α) → List (String × α)
  | [] => [(name, value)]
  | entry :: rest =>
    if name < entry.1 then (name, value) :: entry :: rest
    else if name = entry.1 then (name, value) :: rest
    else entry :: insertEntry name value rest

theorem mem_insertEntry {α : Type} {name : String} {value : α} {entries : List (String × α)}
    {e : String × α} (h : e ∈ insertEntry name value entries) :
    e = (name, value) ∨ e ∈ entries := by
  induction entries with
  | nil => simpa [insertEntry] using h
  | cons entry rest ih =>
    simp only [insertEntry] at h
    split at h
    · simpa using h
    · split at h
      · rcases List.mem_cons.1 h with h | h
        · exact .inl h
        · exact .inr (List.mem_cons_of_mem _ h)
      · rcases List.mem_cons.1 h with h | h
        · exact .inr (h ▸ List.mem_cons_self)
        · exact (ih h).imp_right (List.mem_cons_of_mem _)

/-- A map from names to values. -/
structure NameMap (α : Type) where
  entries : List (String × α)
  ascending : entries.Pairwise fun a b => a.1 < b.1

namespace NameMap

variable {α : Type}

/-- The map without entries. -/
def empty : NameMap α := ⟨[], .nil⟩

instance : Inhabited (NameMap α) := ⟨empty⟩

theorem ascending_insertEntry (name : String) (value : α) {entries : List (String × α)}
    (h : entries.Pairwise fun a b => a.1 < b.1) :
    (insertEntry name value entries).Pairwise fun a b => a.1 < b.1 := by
  induction entries with
  | nil => simp [insertEntry]
  | cons entry rest ih =>
    have ⟨hfirst, hrest⟩ := List.pairwise_cons.1 h
    simp only [insertEntry]
    split
    · rename_i hlt
      refine List.pairwise_cons.2 ⟨fun e he => ?_, h⟩
      rcases List.mem_cons.1 he with he | he
      · exact he ▸ hlt
      · exact String.lt_trans hlt (hfirst e he)
    · rename_i hge
      split
      · rename_i heq
        exact List.pairwise_cons.2 ⟨fun e he => heq ▸ hfirst e he, hrest⟩
      · rename_i hne
        refine List.pairwise_cons.2 ⟨fun e he => ?_, ih hrest⟩
        rcases mem_insertEntry he with he | he
        · rw [he]
          exact Std.lt_of_le_of_ne (String.not_lt.1 hge) (Ne.symm hne)
        · exact hfirst e he

/-- Gives a name a value. -/
def insert (m : NameMap α) (name : String) (value : α) : NameMap α :=
  ⟨insertEntry name value m.entries, ascending_insertEntry name value m.ascending⟩

/-- The map of a list of entries. -/
def ofList (entries : List (String × α)) : NameMap α :=
  entries.foldl (fun m e => m.insert e.1 e.2) empty

/-- The value of a name. -/
def find? (m : NameMap α) (name : String) : Option α := m.entries.lookup name

/-- Whether a name has a value. -/
def contains (m : NameMap α) (name : String) : Bool := (m.find? name).isSome

/-- The names, in ascending order. -/
def names (m : NameMap α) : List String := m.entries.map Prod.fst

/-- The number of names. -/
def size (m : NameMap α) : Nat := m.entries.length

end NameMap

end BuilderPlanner
