import BuilderPlanner.Unicode.CharClass
import BuilderPlanner.Unicode.LetterCase
import Mathlib.Data.List.Chain

/-!
# Capital letters and their lower case are letters

* `Span.Ascending`, `Span.anyCovers_iff` — a search in an ascending list of spans misses none;
* `Span.isWithin`, `Span.anyCovers_of_isWithin` — a span whose code points all belong to a list, and
  `Span.allWithin`, `Span.anyCovers_of_allWithin` — a list of such spans;
* `toUpper_ne_nil` — all characters have an upper case;
* `toLower_eq_singleton` — all characters but one have a single character as lower case;
* `isLetter_of_isUppercaseLetter`, `isLetter_of_toLower` — capital letters are letters, and so are
  their lower cases;
* `isBlank_of_isLetter` — blanks are none.

The tables are compared span by span. Code points are looked up one by one only where a span lies in
no gapless one.
-/

namespace BuilderPlanner.Unicode

/-! ### Spans in a list -/

namespace Span

variable {spans : List Span} {s : Span} {code : Nat}

/-- Spans that stand one after the other. -/
def Ascending (spans : List Span) : Prop :=
  spans.IsChain fun s t => s.first ≤ s.last ∧ s.last < t.first

instance : Decidable (Ascending spans) := inferInstanceAs (Decidable (List.IsChain _ _))

theorem covers_iff :
    s.covers code = true ↔ s.first ≤ code ∧ code ≤ s.last ∧ (code - s.first) % s.step = 0 := by
  simp [covers, and_assoc]

/-- In an ascending list the first span ends before all others. -/
theorem Ascending.lt_of_mem {t : Span} (h : Ascending (t :: spans)) (hs : s ∈ spans) :
    t.first ≤ t.last ∧ t.last < s.first := by
  have htrans : IsTrans Span fun s t => s.first ≤ s.last ∧ s.last < t.first :=
    ⟨fun _ _ _ hab hbc => ⟨hab.1, by omega⟩⟩
  exact List.rel_of_pairwise_cons (List.isChain_iff_pairwise.1 h) hs

/-- A search stops at the first span that starts too late or ends late enough, and no later span of
an ascending list has the code point. -/
theorem anyCovers_iff (h : Ascending spans) :
    anyCovers spans code = true ↔ ∃ s ∈ spans, s.covers code = true := by
  induction spans with
  | nil => simp [anyCovers]
  | cons t rest ih =>
    have hrest : (∃ s ∈ rest, s.covers code = true) → t.first ≤ code ∧ t.last < code := by
      intro hrest
      obtain ⟨s, hs, hcovers⟩ := hrest
      have hlt := h.lt_of_mem hs
      have hfirst := (covers_iff.1 hcovers).1
      omega
    rw [List.exists_mem_cons_iff, anyCovers]
    split
    -- Before the first span there is no code point of any span.
    · have ht : ¬t.covers code = true := fun ht => by
        have := (covers_iff.1 ht).1
        omega
      have hlater : ¬∃ s ∈ rest, s.covers code = true := fun hr => by
        have := hrest hr
        omega
      simp only [Bool.false_eq_true, ht, hlater, or_self]
    · split
      -- Within the bounds of the first span, only that span can have the code point.
      · refine (or_iff_left fun hr => ?_).symm
        have := hrest hr
        omega
      · have ht : ¬t.covers code = true := fun ht => by
          have := (covers_iff.1 ht).2.1
          omega
        rw [ih (List.IsChain.tail h), or_iff_right ht]

/-! ### Spans within a list -/

/-- The code points of a span. -/
def codes (s : Span) : List Nat :=
  List.range' s.first ((s.last - s.first) / s.step + 1) s.step

theorem mem_codes (h : s.covers code = true) : code ∈ s.codes := by
  obtain ⟨hfirst, hlast, hstep⟩ := covers_iff.1 h
  refine List.mem_range'.2 ⟨(code - s.first) / s.step, ?_, ?_⟩
  · have := Nat.div_le_div_right (c := s.step) (Nat.sub_le_sub_right hlast s.first)
    omega
  · have := Nat.div_add_mod (code - s.first) s.step
    omega

/-- What holds of the code points of spans one by one holds of all that they cover. -/
theorem of_anyCovers (hspans : Ascending spans) {p : Nat → Bool}
    (hall : (spans.all fun s => s.codes.all p) = true) (h : anyCovers spans code = true) :
    p code = true := by
  obtain ⟨s, hs, hcovers⟩ := (anyCovers_iff hspans).1 h
  exact List.all_eq_true.1 (List.all_eq_true.1 hall s hs) code (mem_codes hcovers)

/-- Whether the code points of a span belong to a list: all to one gapless span, or one by one. -/
def isWithin (spans : List Span) (s : Span) : Bool :=
  match spans.find? fun t => s.last.ble t.last with
  | some t => t.step == 1 && t.first ≤ s.first || s.codes.all (anyCovers spans)
  | none => false

theorem anyCovers_of_isWithin (hspans : Ascending spans) (h : s.isWithin spans = true)
    (hs : s.covers code = true) : anyCovers spans code = true := by
  unfold isWithin at h
  split at h
  · rename_i t ht
    rw [Bool.or_eq_true, Bool.and_eq_true, beq_iff_eq, decide_eq_true_iff] at h
    rcases h with ⟨hstep, hfirst⟩ | hcodes
    · refine (anyCovers_iff hspans).2 ⟨t, List.mem_of_find?_eq_some ht, covers_iff.2 ?_⟩
      have hlast : s.last ≤ t.last := Nat.le_of_ble_eq_true
        (List.find?_some (p := fun t : Span => s.last.ble t.last) ht)
      have hcovers := covers_iff.1 hs
      rw [hstep, Nat.mod_one]
      omega
    · exact List.all_eq_true.1 hcodes code (mem_codes hs)
  · cases h

/-! ### Spans within a list, one after the other -/

theorem anyCovers_of_suffix {rest : List Span} (hspans : Ascending spans) (h : rest <:+ spans)
    (hcode : anyCovers rest code = true) : anyCovers spans code = true := by
  obtain ⟨s, hs, hcovers⟩ := (anyCovers_iff (hspans.suffix h)).1 hcode
  exact (anyCovers_iff hspans).2 ⟨s, h.subset hs, hcovers⟩

/-- Whether the code points of all of some spans belong to a list. What ends before one of them
starts is left out for those after it, so both may be walked through once if they ascend. -/
def allWithin : List Span → List Span → Bool
  | _, [] => true
  | spans, s :: rest =>
    let spans := spans.dropWhile fun t => t.last.blt s.first
    s.isWithin spans && allWithin spans rest

theorem anyCovers_of_allWithin {ss : List Span} (hspans : Ascending spans)
    (h : allWithin spans ss = true) (hs : s ∈ ss) (hcovers : s.covers code = true) :
    anyCovers spans code = true := by
  induction ss generalizing spans with
  | nil => exact absurd hs List.not_mem_nil
  | cons t rest ih =>
    rw [allWithin, Bool.and_eq_true] at h
    have hsuffix := List.dropWhile_suffix (l := spans) fun u => u.last.blt t.first
    refine anyCovers_of_suffix hspans hsuffix ?_
    rcases List.mem_cons.1 hs with rfl | hs
    · exact anyCovers_of_isWithin (hspans.suffix hsuffix) h.1 hcovers
    · exact ih (hspans.suffix hsuffix) h.2 hs

/-! ### Spans apart from each other -/

/-- Whether two spans have no code point in common, as one ends before the other starts. -/
def isApart (s t : Span) : Bool := s.last < t.first || t.last < s.first

theorem not_covers_of_isApart {t : Span} (h : s.isApart t = true) (hs : s.covers code = true) :
    ¬t.covers code = true := by
  intro ht
  have hs := covers_iff.1 hs
  have ht := covers_iff.1 ht
  simp only [isApart, Bool.or_eq_true, decide_eq_true_iff] at h
  omega

end Span

/-! ### Shifts -/

/-- Where a shift maps its code points. -/
def Shift.image (s : Shift) : Span :=
  ⟨(s.first + s.places).toNat, (s.last + s.places).toNat, s.step⟩

/-- No code point is mapped below zero. -/
def Shift.isUpward (s : Shift) : Bool := 0 ≤ s.first + s.places

theorem Shift.covers_image {s : Shift} (hup : s.isUpward = true) {code : Nat}
    (h : s.toSpan.covers code = true) : s.image.covers (code + s.places).toNat = true := by
  rw [Span.covers_iff] at h ⊢
  rw [isUpward, decide_eq_true_iff] at hup
  obtain ⟨hfirst, hlast, hstep⟩ := h
  have hdiff : (code + s.places).toNat - (s.first + s.places).toNat = code - s.first := by omega
  refine ⟨?_, ?_, ?_⟩
  · show (s.first + s.places).toNat ≤ _
    omega
  · show _ ≤ (s.last + s.places).toNat
    omega
  · show ((code + s.places).toNat - (s.first + s.places).toNat) % s.step = 0
    rw [hdiff, hstep]

theorem shifted_cases (shifts : List Shift) (code : Nat) :
    shifted shifts code = code ∨
      ∃ s ∈ shifts, s.toSpan.covers code = true ∧
        shifted shifts code = (code + s.places).toNat := by
  induction shifts with
  | nil => exact .inl rfl
  | cons s rest ih =>
    rw [shifted]
    split
    · rename_i hs
      exact .inr ⟨s, List.mem_cons_self, hs, rfl⟩
    · refine ih.imp_right fun h => ?_
      obtain ⟨t, ht, h⟩ := h
      exact ⟨t, List.mem_cons_of_mem s ht, h⟩

/-! ### The tables -/

theorem ascending_tables : ∀ spans ∈ [letters, uppercaseLetters, blanks], Span.Ascending spans := by
  decide +kernel

theorem ascending_letters : Span.Ascending letters :=
  ascending_tables letters List.mem_cons_self

theorem ascending_uppercaseLetters : Span.Ascending uppercaseLetters :=
  ascending_tables uppercaseLetters (.tail _ List.mem_cons_self)

theorem ascending_blanks : Span.Ascending blanks :=
  ascending_tables blanks (.tail _ (.tail _ List.mem_cons_self))

theorem uppercaseLetters_within : Span.allWithin letters uppercaseLetters = true := by
  decide +kernel

/-- Letter-like numbers and symbols have lower cases that are no letters, but are no capital letters
themselves. -/
theorem lowerShifts_within :
    (lowerShifts.all fun s => s.isUpward &&
      (s.image.isWithin letters || uppercaseLetters.all s.toSpan.isApart)) = true := by
  decide +kernel

/-- Letters are code points of characters. -/
theorem isValidChar_of_letter {code : Nat} (h : Span.anyCovers letters code = true) :
    code.isValidChar := by
  have hletters : (letters.all fun s =>
      s.last < 0xD800 || (0xDFFF < s.first && s.last < 0x110000)) = true := by decide +kernel
  obtain ⟨s, hs, hcovers⟩ := (Span.anyCovers_iff ascending_letters).1 h
  have hs := List.all_eq_true.1 hletters s hs
  have hcovers := Span.covers_iff.1 hcovers
  simp only [Bool.or_eq_true, Bool.and_eq_true, decide_eq_true_iff] at hs
  unfold Nat.isValidChar
  omega

theorem toNat_ofNat {code : Nat} (h : code.isValidChar) : (Char.ofNat code).toNat = code := by
  unfold Char.ofNat
  rw [dif_pos h]
  rfl

/-! ### Capital letters -/

theorem isLetter_of_isUppercaseLetter {c : Char} (h : isUppercaseLetter c = true) :
    isLetter c = true := by
  obtain ⟨s, hs, hcovers⟩ := (Span.anyCovers_iff ascending_uppercaseLetters).1 h
  exact Span.anyCovers_of_allWithin ascending_letters uppercaseLetters_within hs hcovers

/-- No blank is a letter. -/
theorem isBlank_of_isLetter {c : Char} (h : isLetter c = true) : isBlank c = false := by
  have hblanks : (blanks.all fun s => s.codes.all fun code => !Span.anyCovers letters code) =
      true := by decide +kernel
  by_contra hblank
  rw [Bool.not_eq_false] at hblank
  have hno := Span.of_anyCovers ascending_blanks hblanks hblank
  rw [show Span.anyCovers letters c.toNat = true from h] at hno
  cases hno

/-- No character is lost in upper case. -/
theorem toUpper_ne_nil (c : Char) : toUpper c ≠ [] := by
  have hexpansions : ∀ e ∈ upperExpansions, e.2 ≠ [] := by decide
  unfold toUpper mapped
  cases hcodes : upperExpansions.lookup c.toNat with
  | none => exact List.cons_ne_nil _ _
  | some codes =>
    obtain ⟨l₁, l₂, heq, -⟩ := List.lookup_eq_some_iff.1 hcodes
    have hmem : (c.toNat, codes) ∈ upperExpansions := by
      rw [heq]
      exact List.mem_append_right l₁ List.mem_cons_self
    exact fun h => hexpansions _ hmem (List.map_eq_nil_iff.1 h)

/-- The one character whose lower case has several characters is the capital `I` with a dot. -/
theorem toLower_eq_singleton {c : Char} (hc : c ≠ 'İ') :
    toLower c = [Char.ofNat (shifted lowerShifts c.toNat)] := by
  have hlookup : lowerExpansions.lookup c.toNat = none := by
    have hne : (c.toNat == 0x130) = false := by
      rw [beq_eq_false_iff_ne]
      intro h
      exact hc (Char.toNat_inj.1 h)
    simp only [lowerExpansions, List.lookup_cons, hne, List.lookup_nil]
  rw [toLower, mapped, hlookup]

theorem anyCovers_shifted {c : Char} (hc : isUppercaseLetter c = true) :
    Span.anyCovers letters (shifted lowerShifts c.toNat) = true := by
  rcases shifted_cases lowerShifts c.toNat with heq | ⟨s, hs, hcovers, heq⟩
  · rw [heq]
    exact isLetter_of_isUppercaseLetter hc
  · rw [heq]
    have hwithin := List.all_eq_true.1 lowerShifts_within s hs
    rw [Bool.and_eq_true, Bool.or_eq_true] at hwithin
    obtain ⟨hup, himage | hapart⟩ := hwithin
    · exact Span.anyCovers_of_isWithin ascending_letters himage (Shift.covers_image hup hcovers)
    · obtain ⟨u, hu, hcu⟩ := (Span.anyCovers_iff ascending_uppercaseLetters).1 hc
      exact absurd hcu
        (Span.not_covers_of_isApart (List.all_eq_true.1 hapart u hu) hcovers)

/-- The lower case of a capital letter is a letter, if it is a single character. -/
theorem isLetter_of_toLower {c l : Char} (hc : isUppercaseLetter c = true) (h : toLower c = [l]) :
    isLetter l = true := by
  have hdot : c ≠ 'İ' := by
    rintro rfl
    have hlength : (toLower 'İ').length = 2 := by decide
    rw [h] at hlength
    cases hlength
  rw [toLower_eq_singleton hdot] at h
  obtain rfl := (List.cons.inj h).1
  have hletter := anyCovers_shifted hc
  rw [isLetter, toNat_ofNat (isValidChar_of_letter hletter)]
  exact hletter

end BuilderPlanner.Unicode
