import BuilderPlanner.Json.Quoted

/-!
# Written strings are read as they were

Every character is written as one piece: itself, a short escape, or a unit with four digits, two of
which are zero. Such a unit is none of a pair, so the pieces are joined one by one.

* `Part.StandsFor` — a piece that is joined to a character of its own;
* `exists_part_writeChar` — a written character is read as such a piece;
* `readQuoted_writeQuoted` — a written string is read up to its closing mark.
-/

namespace BuilderPlanner.Json

/-! ### Units of small characters -/

theorem hexValue?_hexDigit {n : Nat} (h : n < 16) : hexValue? (hexDigit n) = some n := by
  have hall : ∀ n < 16, hexValue? (hexDigit n) = some n := by decide
  exact hall n h

theorem unitOf?_hexDigit {n : Nat} (h : n < 0x20) :
    unitOf? '0' '0' (hexDigit (n / 16)) (hexDigit (n % 16)) = some n := by
  have hhigh := hexValue?_hexDigit (n := n / 16) (by omega)
  have hlow := hexValue?_hexDigit (n := n % 16) (by omega)
  have hzero : hexValue? '0' = some 0 := by decide
  simp only [unitOf?, hzero, hhigh, hlow, Option.some.injEq]
  omega

/-! ### Written characters -/

/-- A piece that is joined to a character of its own, whatever pieces follow it. -/
def Part.StandsFor (p : Part) (c : Char) : Prop :=
  ∀ ending parts, joinParts ending (p :: parts) = (c :: ·) <$> joinParts ending parts

theorem Part.standsFor_char (c : Char) : (Part.char c).StandsFor c := by
  intro ending parts
  rw [joinParts]

/-- A unit below those of pairs names its own character. -/
theorem Part.standsFor_unit {c : Char} (h : c.toNat < 0x20) : (Part.unit c.toNat).StandsFor c := by
  intro ending parts
  have hlow : isLowUnit c.toNat = false := by
    simp only [isLowUnit, Bool.and_eq_false_iff, decide_eq_false_iff_not]
    omega
  have hhigh : isHighUnit c.toNat = false := by
    simp only [isHighUnit, Bool.and_eq_false_iff, decide_eq_false_iff_not]
    omega
  rw [joinParts.eq_def]
  simp only [hlow, hhigh, Bool.false_eq_true, ↓reduceIte, Char.ofNat_toNat]

theorem quotedParts_escape {e d : Char} (hu : e ≠ 'u') (he : shortEscape? e = some d)
    (rest : List Char) :
    quotedParts ('\\' :: e :: rest) = consPart (.char d) (quotedParts rest) := by
  rw [quotedParts.eq_def]
  simp only [show '\\' ≠ '"' from by decide, hu, he, ↓reduceIte]

theorem quotedParts_unit {a b c d : Char} {n : Nat} (h : unitOf? a b c d = some n)
    (rest : List Char) :
    quotedParts ('\\' :: 'u' :: a :: b :: c :: d :: rest) =
      consPart (.unit n) (quotedParts rest) := by
  rw [quotedParts.eq_def]
  simp only [show '\\' ≠ '"' from by decide, h, ↓reduceIte]

theorem quotedParts_plain {c : Char} (hquote : c ≠ '"') (hslash : c ≠ '\\')
    (h : ¬c.toNat < 0x20) (rest : List Char) :
    quotedParts (c :: rest) = consPart (.char c) (quotedParts rest) := by
  rw [quotedParts.eq_def]
  simp only [if_neg hquote, if_neg hslash, if_neg h]

/-- A written character is read as a piece that stands for it: one case for each way to write a
character. -/
theorem exists_part_writeChar (c : Char) :
    ∃ p : Part, p.StandsFor c ∧
      ∀ rest, quotedParts (writeChar c ++ rest) = consPart p (quotedParts rest) := by
  unfold writeChar
  split
  case h_8 hquote hslash _ _ _ _ _ =>
    split
    · rename_i hsmall
      exact ⟨_, Part.standsFor_unit hsmall, quotedParts_unit (unitOf?_hexDigit hsmall)⟩
    · rename_i hlarge
      exact ⟨_, Part.standsFor_char c, quotedParts_plain hquote hslash hlarge⟩
  all_goals
    exact ⟨_, Part.standsFor_char _, quotedParts_escape (by decide) (by decide)⟩

/-! ### Written strings -/

theorem exists_parts_writeChars (cs rest : List Char) :
    ∃ parts, quotedParts (cs.flatMap writeChar ++ '"' :: rest) = (parts, .closed, rest) ∧
      joinParts .closed parts = .ok cs := by
  induction cs with
  | nil =>
    refine ⟨[], ?_, rfl⟩
    show quotedParts ('"' :: rest) = _
    rw [quotedParts.eq_def]
    simp only [↓reduceIte]
  | cons c cs ih =>
    obtain ⟨parts, hread, hjoin⟩ := ih
    obtain ⟨p, hp, hc⟩ := exists_part_writeChar c
    refine ⟨p :: parts, ?_, ?_⟩
    · rw [List.flatMap_cons, List.append_assoc, hc, hread]
      rfl
    · rw [hp, hjoin]
      rfl

/-- A written string is read up to its closing mark. -/
theorem readQuoted_writeQuoted (s : String) (rest : List Char) :
    readQuoted (s.toList.flatMap writeChar ++ '"' :: rest) = .complete (.text s) rest := by
  obtain ⟨parts, hread, hjoin⟩ := exists_parts_writeChars s.toList rest
  simp only [readQuoted, hread, hjoin, Ending.fault?, String.ofList_toList]

/-- Marks, escapes and characters below U+0020 are read back, and so are characters of a pair. -/
example : readQuoted ((writeQuoted "\"\\\t\x1f😀").drop 1) = .complete (.text "\"\\\t\x1f😀") [] := by
  decide +kernel

end BuilderPlanner.Json
