import BuilderPlanner.Name.Capital
import BuilderPlanner.Proofs.Name.Identifier
import BuilderPlanner.Proofs.Unicode.Letters

/-!
# Names that get or lose a capital

* `length_le_length_capitalize` — a name does not get shorter with a capital;
* `IsCapitalized` — texts that begin with a capital letter;
* `OtherCapital`, `decapitalize_eq_iff` — when two of them become one;
* `isIdentifier_decapitalize_iff` — when one of them becomes an identifier.

The last two depend on what may follow in a name: a combining dot may not, and this is what the
lower case of the dotted `İ` ends in.
-/

namespace BuilderPlanner

open Unicode

/-! ### Capitalized texts -/

theorem length_le_length_capitalize (name : String) : name.length ≤ (capitalize name).length := by
  rw [← String.length_toList, ← String.length_toList]
  unfold capitalize
  cases name.toList with
  | nil => exact Nat.zero_le _
  | cons c rest =>
    have hpos : 0 < (toUpper c).length := List.length_pos_of_ne_nil (toUpper_ne_nil c)
    rw [String.toList_ofList, List.length_append, List.length_cons]
    omega

/-- A text that begins with a capital letter. -/
def IsCapitalized (name : String) : Prop :=
  ∃ c rest, name.toList = c :: rest ∧ isUppercaseLetter c = true

/-- The dot that stands above the character before it. -/
def combiningDot : Char := '\u0307'

theorem not_continuesIdentifier_combiningDot : ¬continuesIdentifier combiningDot = true := by
  decide +kernel

theorem toLower_dotted : toLower 'İ' = ['i', combiningDot] := by decide +kernel

/-! ### First characters -/

section

variable {c : Char} {rest : List Char}

/-- After a capital letter, the next character decides whether there is an acronym. -/
theorem beginsWithAcronym_cons (hc : isUppercaseLetter c = true) :
    beginsWithAcronym (c :: rest) = rest.head?.any isUppercase := by
  cases rest with
  | nil => rfl
  | cons x rest =>
    rw [beginsWithAcronym, isUppercase_of_isUppercaseLetter hc, Bool.true_and]
    rfl

theorem decapitalize_of_acronym {name : String} (h : beginsWithAcronym name.toList = true) :
    decapitalize name = name := by
  rw [decapitalize, if_pos h]

theorem toList_decapitalize {name : String} (hname : name.toList = c :: rest)
    (h : ¬beginsWithAcronym name.toList = true) :
    (decapitalize name).toList = toLower c ++ rest := by
  rw [decapitalize, if_neg h, hname]
  exact String.toList_ofList

/-- The lower case of a capital letter is a letter, but for one. -/
theorem toLower_cases (hc : isUppercaseLetter c = true) :
    c = 'İ' ∨ ∃ l, toLower c = [l] ∧ isLetter l = true := by
  by_cases hdot : c = 'İ'
  · exact .inl hdot
  · exact .inr ⟨_, toLower_eq_singleton hdot, isLetter_of_toLower hc (toLower_eq_singleton hdot)⟩

end

/-! ### Names that become one -/

/-- Two texts that differ in their first characters, which have the same lower case, and whose
second characters are no capitals. -/
inductive OtherCapital : String → String → Prop
  | intro {c d : Char} {rest : List Char} (hne : c ≠ d) (hlower : toLower c = toLower d)
    (hrest : ¬rest.head?.any isUppercase = true) :
    OtherCapital (String.ofList (c :: rest)) (String.ofList (d :: rest))

theorem OtherCapital.decapitalize_eq {s t : String} (h : OtherCapital s t) :
    decapitalize s = decapitalize t := by
  cases h with
  | @intro c d rest _ hlower hrest =>
    have hacronym : ∀ c, ¬beginsWithAcronym (String.ofList (c :: rest)).toList = true := by
      intro c h
      rw [String.toList_ofList] at h
      cases rest with
      | nil => cases h
      | cons x rest =>
        rw [beginsWithAcronym, Bool.and_eq_true] at h
        exact hrest h.2
    apply String.toList_injective
    rw [toList_decapitalize String.toList_ofList (hacronym c),
      toList_decapitalize String.toList_ofList (hacronym d), hlower]

/-- An acronym is not what another text becomes: with the same characters after the first, that
text begins with an acronym as well. -/
theorem decapitalize_ne_acronym {s t : String} (hs : IsCapitalized s) (ht : IsCapitalized t)
    (hacronym : beginsWithAcronym s.toList = true) (hnot : ¬beginsWithAcronym t.toList = true) :
    s ≠ decapitalize t := by
  intro heq
  obtain ⟨c, rest, hs, hc⟩ := hs
  obtain ⟨d, tail, ht, hd⟩ := ht
  have hlist := congrArg String.toList heq
  rw [toList_decapitalize ht hnot, hs] at hlist
  rcases toLower_cases hd with rfl | ⟨l, hl, -⟩
  -- The lower case of the dotted capital begins with a small letter, which begins no acronym.
  · rw [toLower_dotted] at hlist
    obtain ⟨rfl, -⟩ := List.cons.inj hlist
    exact absurd hc (by decide +kernel)
  · rw [hl] at hlist
    obtain ⟨-, rfl⟩ := List.cons.inj hlist
    rw [hs, beginsWithAcronym_cons hc] at hacronym
    rw [ht, beginsWithAcronym_cons hd] at hnot
    exact hnot hacronym

/-- Lower cases of capital letters can be told from what follows them in identifiers. -/
theorem toLower_append_eq {c d : Char} {rest tail : List Char} (hc : isUppercaseLetter c = true)
    (hd : isUppercaseLetter d = true) (hrest : ∀ x ∈ rest, continuesIdentifier x = true)
    (htail : ∀ x ∈ tail, continuesIdentifier x = true)
    (h : toLower c ++ rest = toLower d ++ tail) : toLower c = toLower d ∧ rest = tail := by
  -- The lower case of the dotted capital has a combining dot where the other text cannot have one.
  have hdot : ∀ {l : Char} {rest tail : List Char}, (∀ x ∈ tail, continuesIdentifier x = true) →
      toLower 'İ' ++ rest ≠ l :: tail := by
    intro l rest tail htail h
    rw [toLower_dotted] at h
    obtain ⟨-, rfl⟩ := List.cons.inj h
    exact not_continuesIdentifier_combiningDot (htail _ List.mem_cons_self)
  rcases toLower_cases hc with rfl | ⟨l, hl, -⟩ <;> rcases toLower_cases hd with rfl | ⟨k, hk, -⟩
  · exact ⟨rfl, List.append_cancel_left h⟩
  · rw [hk] at h
    exact absurd h (hdot htail)
  · rw [hl] at h
    exact absurd h.symm (hdot hrest)
  · rw [hl, hk] at h ⊢
    obtain ⟨rfl, rfl⟩ := List.cons.inj h
    exact ⟨rfl, rfl⟩

/-- Two capitalized texts become the same name only if they differ at most in capitals with the same
lower case. -/
theorem decapitalize_eq_iff {s t : String} (hs : IsCapitalized s) (ht : IsCapitalized t)
    (hscont : ContinuesIdentifier s) (htcont : ContinuesIdentifier t) :
    decapitalize s = decapitalize t ↔ s = t ∨ OtherCapital s t := by
  constructor
  · intro h
    by_cases hsacr : beginsWithAcronym s.toList = true <;>
      by_cases htacr : beginsWithAcronym t.toList = true
    · rw [decapitalize_of_acronym hsacr, decapitalize_of_acronym htacr] at h
      exact .inl h
    · rw [decapitalize_of_acronym hsacr] at h
      exact absurd h (decapitalize_ne_acronym hs ht hsacr htacr)
    · rw [decapitalize_of_acronym htacr] at h
      exact absurd h.symm (decapitalize_ne_acronym ht hs htacr hsacr)
    · obtain ⟨c, rest, hs, hc⟩ := hs
      obtain ⟨d, tail, ht, hd⟩ := ht
      have hlist := congrArg String.toList h
      rw [toList_decapitalize hs hsacr, toList_decapitalize ht htacr] at hlist
      obtain ⟨hlower, rfl⟩ := toLower_append_eq hc hd
        (fun x hx => hscont x (hs ▸ List.mem_cons_of_mem c hx))
        (fun x hx => htcont x (ht ▸ List.mem_cons_of_mem d hx)) hlist
      rw [hs, beginsWithAcronym_cons hc] at hsacr
      rw [← String.ofList_toList (s := s), ← String.ofList_toList (s := t), hs, ht]
      by_cases hcd : c = d
      · exact .inl (by rw [hcd])
      · exact .inr (.intro hcd hlower hsacr)
  · intro h
    rcases h with rfl | h
    · rfl
    · exact h.decapitalize_eq

/-- The sign for kelvin has the lower case of the letter `K`. -/
example : decapitalize "Key" = "key" ∧ decapitalize "\u212Aey" = "key" := by decide +kernel

/-! ### Names that become identifiers -/

theorem isIdentifier_decapitalize_iff {s : String} (hs : IsCapitalized s)
    (hcont : ContinuesIdentifier s) :
    isIdentifier (decapitalize s) = true ↔
      decapitalize s ∉ reservedWords ∧ combiningDot ∉ (decapitalize s).toList := by
  rw [isIdentifier_iff, and_comm]
  refine and_congr_right fun _ => ?_
  constructor
  · intro h hdot
    exact not_continuesIdentifier_combiningDot (continuesIdentifier_of_mem h hdot)
  · intro hdot
    obtain ⟨c, rest, hs, hc⟩ := hs
    have hrest : ∀ x ∈ rest, continuesIdentifier x = true :=
      fun x hx => hcont x (hs ▸ List.mem_cons_of_mem c hx)
    have hbegins : ∀ {l : Char}, isLetter l = true → beginsIdentifier l = true := by
      intro l hl
      rw [beginsIdentifier, hl, Bool.true_or, Bool.true_or]
    by_cases hacronym : beginsWithAcronym s.toList = true
    · rw [decapitalize_of_acronym hacronym, hs]
      exact identifierShaped_cons.2 ⟨hbegins (isLetter_of_isUppercaseLetter hc), hrest⟩
    · rw [toList_decapitalize hs hacronym] at hdot ⊢
      rcases toLower_cases hc with rfl | ⟨l, hl, hletter⟩
      · rw [toLower_dotted] at hdot
        exact absurd (List.mem_cons_of_mem _ List.mem_cons_self) hdot
      · rw [hl]
        exact identifierShaped_cons.2 ⟨hbegins hletter, hrest⟩

end BuilderPlanner
