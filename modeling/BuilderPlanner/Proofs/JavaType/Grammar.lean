import BuilderPlanner.JavaType.Reader

/-!
# The grammar of types

The grammar says which lists of tokens are written forms of which types.

* `IsName`, `IsType`, `IsReference`, `AreArguments` — the grammar;
* `advance` — where a list of tokens leads the reader;
* `run_eq_ok_iff` — the reader reads up to the first token that completes a type.
-/

namespace BuilderPlanner

namespace JavaType

/-! ### The grammar -/

/-- The written forms of a name: words with dots between them. -/
inductive IsName : List TokenKind → String → Prop
  | word (w : String) : IsName [.word w] w
  | dotted {q : List TokenKind} {n : String} (h : IsName q n) (w : String) :
      IsName (q ++ [.dot, .word w]) (n ++ "." ++ w)

mutual

/-- The written forms of a type. Annotations before it carry no meaning. -/
inductive IsType : List TokenKind → JavaType → Prop
  | annotated {q ks : List TokenKind} {n : String} {t : JavaType} (hn : IsName q n)
      (h : IsType ks t) : IsType (.atSign :: q ++ ks) t
  | wildcard : IsType [.question] .wildcard
  | bounded (b : Bound) {ks : List TokenKind} {t : JavaType} (h : IsType ks t) :
      IsType (.question :: .word b.keyword :: ks) (.bounded b t)
  | reference {ks : List TokenKind} {t : JavaType} (h : IsReference ks t) : IsType ks t

/-- The written forms of a type that is no wildcard: a name, with type arguments or without, and
brackets after it. -/
inductive IsReference : List TokenKind → JavaType → Prop
  | plain {q : List TokenKind} {n : String} (hn : IsName q n) : IsReference q (.plain n)
  | generic {q ks : List TokenKind} {n : String} {ts : List JavaType} (hn : IsName q n)
      (h : AreArguments ks ts) : IsReference (q ++ .less :: ks ++ [.greater]) (.named n ts)
  | array {ks : List TokenKind} {t : JavaType} (h : IsReference ks t) :
      IsReference (ks ++ [.openBracket, .closeBracket]) (.array t)

/-- The written forms of type arguments, at least one, with commas between them. -/
inductive AreArguments : List TokenKind → List JavaType → Prop
  | one {ks : List TokenKind} {t : JavaType} (h : IsType ks t) : AreArguments ks [t]
  | more {ks ls : List TokenKind} {ts : List JavaType} {t : JavaType} (h : AreArguments ks ts)
      (ht : IsType ls t) : AreArguments (ks ++ .comma :: ls) (ts ++ [t])

end

/-! ### Positions -/

/-- The position after a list of tokens that all fit. -/
def advance : Phase → List Frame → List TokenKind → Option (Phase × List Frame)
  | phase, stack, [] => some (phase, stack)
  | phase, stack, kind :: ks =>
    match step phase stack kind with
    | .next phase stack => advance phase stack ks
    | _ => none

theorem advance_cons {phase phase' : Phase} {stack stack' : List Frame} {kind : TokenKind}
    (h : step phase stack kind = .next phase' stack') (ks : List TokenKind) :
    advance phase stack (kind :: ks) = advance phase' stack' ks := by
  rw [advance, h]

theorem advance_append (phase : Phase) (stack : List Frame) (ks ls : List TokenKind) :
    advance phase stack (ks ++ ls) =
      (advance phase stack ks).bind fun p => advance p.1 p.2 ls := by
  induction ks generalizing phase stack with
  | nil => rfl
  | cons kind ks ih =>
    rw [List.cons_append, advance, advance]
    cases step phase stack kind with
    | next phase' stack' => exact ih phase' stack'
    | accept t => rfl
    | refuse expected => rfl

/-- The reader reads up to the first token that completes a type. -/
theorem run_eq_ok_iff {phase : Phase} {stack : List Frame} {offset : Nat} {tokens : List Token}
    {t : JavaType} :
    run phase stack offset tokens = .ok t ↔
      ∃ ks kind rest phase' stack', tokens.map Token.kind = ks ++ kind :: rest ∧
        advance phase stack ks = some (phase', stack') ∧
        step phase' stack' kind = .accept t := by
  induction tokens generalizing phase stack offset with
  | nil =>
    constructor
    · intro h
      cases h
    · intro h
      obtain ⟨ks, kind, rest, phase', stack', hks, -⟩ := h
      exact absurd hks (by simp)
  | cons token tokens ih =>
    rw [run, List.map_cons]
    constructor
    · intro h
      cases hstep : step phase stack token.kind with
      | next phase₁ stack₁ =>
        rw [hstep] at h
        obtain ⟨ks, kind, rest, phase', stack', hks, hadvance, haccept⟩ := ih.1 h
        refine ⟨token.kind :: ks, kind, rest, phase', stack', ?_, ?_, haccept⟩
        · rw [hks, List.cons_append]
        · rw [advance_cons hstep, hadvance]
      | accept u =>
        rw [hstep] at h
        cases h
        exact ⟨[], token.kind, tokens.map Token.kind, phase, stack, rfl, rfl, hstep⟩
      | refuse expected =>
        rw [hstep] at h
        cases h
    · intro h
      obtain ⟨ks, kind, rest, phase', stack', hks, hadvance, haccept⟩ := h
      cases ks with
      | nil =>
        obtain ⟨hkind, -⟩ := List.cons.inj hks
        cases hadvance
        rw [hkind, haccept]
      | cons kind₁ ks =>
        obtain ⟨hkind, hks⟩ := List.cons.inj hks
        rw [advance] at hadvance
        rw [hkind]
        cases hstep : step phase stack kind₁ with
        | next phase₁ stack₁ =>
          rw [hstep] at hadvance
          exact ih.2 ⟨ks, kind, rest, phase', stack', hks, hadvance, haccept⟩
        | accept u =>
          rw [hstep] at hadvance
          cases hadvance
        | refuse expected =>
          rw [hstep] at hadvance
          cases hadvance

end JavaType

end BuilderPlanner
