import BuilderPlanner.Proofs.JavaType.Grammar

/-!
# What is read is in the grammar

The reader keeps what it has read in a phase and a stack of frames. Here is said which tokens these
stand for.

* `Opens` — the tokens around the innermost type, by the stack;
* `Held` — all tokens up to a position;
* `Held.step` — a token keeps to the grammar;
* `isType_of_run` — what the reader takes for a type is one.
-/

namespace BuilderPlanner

namespace JavaType

/-! ### Tokens behind a position -/

/-- The tokens that were read before the innermost type begins. -/
inductive Opens : List Frame → List TokenKind → Prop
  | outermost : Opens [] []
  | annotation {stack : List Frame} {pre q : List TokenKind} {n : String} (h : Opens stack pre)
      (hn : IsName q n) : Opens stack (pre ++ .atSign :: q)
  | limit {stack : List Frame} {pre : List TokenKind} (h : Opens stack pre) (b : Bound) :
      Opens (.limit b :: stack) (pre ++ [.question, .word b.keyword])
  | firstArgument {stack : List Frame} {pre q : List TokenKind} {n : String} (h : Opens stack pre)
      (hn : IsName q n) : Opens (.argument n [] :: stack) (pre ++ q ++ [.less])
  | nextArgument {stack : List Frame} {pre q ks : List TokenKind} {n : String}
      {ts : List JavaType} (h : Opens stack pre) (hn : IsName q n) (hts : AreArguments ks ts) :
      Opens (.argument n ts.reverse :: stack) (pre ++ q ++ .less :: ks ++ [.comma])

/-- The tokens that were read up to a position. -/
inductive Held : Phase → List Frame → List TokenKind → Prop
  | start {stack : List Frame} {pre : List TokenKind} (h : Opens stack pre) : Held .start stack pre
  | annotating {stack : List Frame} {pre : List TokenKind} (h : Opens stack pre) :
      Held .annotating stack (pre ++ [.atSign])
  | annotated {stack : List Frame} {pre q : List TokenKind} {n : String} (h : Opens stack pre)
      (hn : IsName q n) : Held .annotated stack (pre ++ .atSign :: q)
  | annotatingDot {stack : List Frame} {pre q : List TokenKind} {n : String} (h : Opens stack pre)
      (hn : IsName q n) : Held .annotatingDot stack (pre ++ .atSign :: q ++ [.dot])
  | name {stack : List Frame} {pre q : List TokenKind} {n : String} (h : Opens stack pre)
      (hn : IsName q n) : Held (.name n) stack (pre ++ q)
  | nameDot {stack : List Frame} {pre q : List TokenKind} {n : String} (h : Opens stack pre)
      (hn : IsName q n) : Held (.nameDot n) stack (pre ++ q ++ [.dot])
  | wildcard {stack : List Frame} {pre : List TokenKind} (h : Opens stack pre) :
      Held .wildcard stack (pre ++ [.question])
  | suffix {stack : List Frame} {pre ks : List TokenKind} {t : JavaType} (h : Opens stack pre)
      (ht : IsReference ks t) : Held (.suffix t) stack (pre ++ ks)
  | bracket {stack : List Frame} {pre ks : List TokenKind} {t : JavaType} (h : Opens stack pre)
      (ht : IsReference ks t) : Held (.bracket t) stack (pre ++ ks ++ [.openBracket])

/-- What a step does is right after the tokens `read`, that of the step included. -/
inductive Fits (read : List TokenKind) : Step → Prop
  | next {phase : Phase} {stack : List Frame} (h : Held phase stack read) :
      Fits read (.next phase stack)
  | accept {ks : List TokenKind} {t : JavaType} (ht : IsType ks t) (h : read = ks ++ [.finish]) :
      Fits read (.accept t)
  | refuse (expected : Expectation) : Fits read (.refuse expected)

/-! ### One token -/

section

variable {stack : List Frame} {pre ks : List TokenKind} {t : JavaType}

/-- A complete argument is put into the frame, or all of them make a type. -/
theorem Opens.complete_argument {q : List TokenKind} {n : String} {before : List JavaType}
    (h : Opens stack pre) (hn : IsName q n) (hts : AreArguments ks (before.reverse ++ [t]))
    (kind : TokenKind) :
    Fits (pre ++ q ++ .less :: ks ++ [kind]) (complete kind t (.argument n before :: stack)) := by
  cases kind with
  | comma =>
    have hopens := Opens.nextArgument h hn hts
    rw [List.reverse_append, List.reverse_reverse, List.reverse_singleton,
      List.singleton_append] at hopens
    show Fits _ (.next .start (.argument n (t :: before) :: stack))
    exact .next (.start hopens)
  | greater =>
    have hheld := Held.suffix h (.generic hn hts)
    show Fits _ (.next (.suffix (.named n (before.reverse ++ [t]))) stack)
    refine .next ?_
    simpa only [List.append_assoc, List.cons_append, List.nil_append] using hheld
  | word | dot | less | openBracket | closeBracket | question | atSign | finish => exact .refuse _

/-- A complete type is handed to the types around it. -/
theorem Opens.complete (h : Opens stack pre) (ht : IsType ks t) (kind : TokenKind) :
    Fits (pre ++ ks ++ [kind]) (complete kind t stack) := by
  induction h generalizing ks t with
  | outermost =>
    cases kind with
    | finish =>
      show Fits (ks ++ [.finish]) (.accept t)
      exact .accept ht rfl
    | word | dot | comma | less | greater | openBracket | closeBracket | question | atSign =>
      exact .refuse _
  | annotation _ hn ih =>
    simpa only [List.append_assoc, List.cons_append] using ih (.annotated hn ht)
  | @limit stack pre _ b ih =>
    show Fits _ (complete kind (.bounded b t) stack)
    simpa only [List.append_assoc, List.cons_append, List.nil_append] using ih (.bounded b ht)
  | @firstArgument stack pre q n h hn =>
    have hts : AreArguments ks ([].reverse ++ [t]) := .one ht
    simpa only [List.append_assoc, List.cons_append, List.nil_append] using
      h.complete_argument hn hts kind
  | @nextArgument stack pre q ls n ts h hn hts =>
    have hts : AreArguments (ls ++ .comma :: ks) (ts.reverse.reverse ++ [t]) := by
      rw [List.reverse_reverse]
      exact hts.more ht
    simpa only [List.append_assoc, List.cons_append, List.nil_append] using
      h.complete_argument hn hts kind

theorem Opens.begin (h : Opens stack pre) (kind : TokenKind) :
    Fits (pre ++ [kind]) (begin kind stack) := by
  cases kind with
  | atSign =>
    show Fits _ (.next .annotating stack)
    exact .next (.annotating h)
  | question =>
    show Fits _ (.next .wildcard stack)
    exact .next (.wildcard h)
  | word w =>
    show Fits _ (.next (.name w) stack)
    exact .next (.name h (.word w))
  | dot | comma | less | greater | openBracket | closeBracket | finish => exact .refuse _

theorem Opens.extend (h : Opens stack pre) (ht : IsReference ks t) (kind : TokenKind) :
    Fits (pre ++ ks ++ [kind]) (extend kind t stack) := by
  cases kind with
  | openBracket =>
    show Fits _ (.next (.bracket t) stack)
    exact .next (.bracket h ht)
  | word | dot | comma | less | greater | closeBracket | question | atSign | finish =>
    exact h.complete (.reference ht) _

/-- After the sign of a wildcard a word may introduce a limit, or else the wildcard is complete. -/
theorem step_wildcard (stack : List Frame) (kind : TokenKind) :
    (∃ b : Bound, kind = .word b.keyword ∧
      step .wildcard stack kind = .next .start (.limit b :: stack)) ∨
    step .wildcard stack kind = JavaType.complete kind .wildcard stack := by
  by_cases hupper : kind = .word Bound.upper.keyword
  · exact .inl ⟨.upper, hupper, by rw [hupper]; rfl⟩
  · by_cases hlower : kind = .word Bound.lower.keyword
    · exact .inl ⟨.lower, hlower, by rw [hlower]; rfl⟩
    · refine .inr ?_
      unfold step
      split <;> simp_all [Bound.keyword]

/-- A token keeps to the grammar. -/
theorem Held.step {phase : Phase} {read : List TokenKind} (h : Held phase stack read)
    (kind : TokenKind) : Fits (read ++ [kind]) (step phase stack kind) := by
  cases h with
  | start h => exact h.begin kind
  | annotating h =>
    cases kind with
    | word w =>
      have hheld := Held.annotated h (.word w)
      show Fits _ (.next .annotated stack)
      refine .next ?_
      simpa only [List.append_assoc, List.cons_append, List.nil_append] using hheld
    | dot | comma | less | greater | openBracket | closeBracket | question | atSign | finish =>
      exact .refuse _
  | annotatingDot h hn =>
    cases kind with
    | word w =>
      have hheld := Held.annotated h (hn.dotted w)
      show Fits _ (.next .annotated stack)
      refine .next ?_
      simpa only [List.append_assoc, List.cons_append, List.nil_append] using hheld
    | dot | comma | less | greater | openBracket | closeBracket | question | atSign | finish =>
      exact .refuse _
  | annotated h hn =>
    cases kind with
    | dot =>
      show Fits _ (.next .annotatingDot stack)
      exact .next (.annotatingDot h hn)
    | word | comma | less | greater | openBracket | closeBracket | question | atSign | finish =>
      exact (Opens.annotation h hn).begin _
  | @name stack pre q n h hn =>
    cases kind with
    | dot =>
      show Fits _ (.next (.nameDot n) stack)
      exact .next (.nameDot h hn)
    | less =>
      show Fits _ (.next .start (.argument n [] :: stack))
      exact .next (.start (.firstArgument h hn))
    | word | comma | greater | openBracket | closeBracket | question | atSign | finish =>
      exact h.extend (.plain hn) _
  | @nameDot stack pre q n h hn =>
    cases kind with
    | word w =>
      have hheld := Held.name h (hn.dotted w)
      show Fits _ (.next (.name (n ++ "." ++ w)) stack)
      refine .next ?_
      simpa only [List.append_assoc, List.cons_append, List.nil_append] using hheld
    | dot | comma | less | greater | openBracket | closeBracket | question | atSign | finish =>
      exact .refuse _
  | wildcard h =>
    rcases step_wildcard stack kind with ⟨b, rfl, hstep⟩ | hstep
    · rw [hstep]
      refine .next (.start ?_)
      simpa only [List.append_assoc, List.cons_append, List.nil_append] using h.limit b
    · rw [hstep]
      exact h.complete .wildcard kind
  | suffix h ht => exact h.extend ht kind
  | @bracket stack pre ks t h ht =>
    cases kind with
    | closeBracket =>
      have hheld := Held.suffix h ht.array
      show Fits _ (.next (.suffix (.array t)) stack)
      refine .next ?_
      simpa only [List.append_assoc, List.cons_append, List.nil_append] using hheld
    | word | dot | comma | less | greater | openBracket | question | atSign | finish =>
      exact .refuse _

end

/-! ### All tokens -/

theorem Held.advance {phase phase' : Phase} {stack stack' : List Frame}
    {read ks : List TokenKind} (h : Held phase stack read)
    (hadvance : advance phase stack ks = some (phase', stack')) :
    Held phase' stack' (read ++ ks) := by
  induction ks generalizing phase stack read with
  | nil =>
    cases hadvance
    rwa [List.append_nil]
  | cons kind ks ih =>
    rw [JavaType.advance] at hadvance
    have hfits := h.step kind
    cases hstep : JavaType.step phase stack kind with
    | next phase₁ stack₁ =>
      rw [hstep] at hadvance hfits
      cases hfits with
      | next hheld =>
        rw [List.append_cons]
        exact ih hheld hadvance
    | accept u =>
      rw [hstep] at hadvance
      cases hadvance
    | refuse expected =>
      rw [hstep] at hadvance
      cases hadvance

/-- A type that is accepted was written, and the mark of the end follows it. -/
theorem isType_of_accept {ks : List TokenKind} {kind : TokenKind} {phase : Phase}
    {stack : List Frame} {t : JavaType} (hadvance : advance .start [] ks = some (phase, stack))
    (haccept : step phase stack kind = .accept t) : kind = .finish ∧ IsType ks t := by
  have hfits := ((Held.start .outermost).advance hadvance).step kind
  rw [haccept] at hfits
  cases hfits with
  | accept ht heq =>
    obtain ⟨rfl, hkind⟩ := List.append_inj' heq rfl
    exact ⟨(List.cons.inj hkind).1, ht⟩

/-- What the reader takes for a type is one, up to the mark of the end. -/
theorem isType_of_run {offset : Nat} {tokens : List Token} {t : JavaType}
    (h : run .start [] offset tokens = .ok t) :
    ∃ ks rest, tokens.map Token.kind = ks ++ .finish :: rest ∧ IsType ks t := by
  obtain ⟨ks, kind, rest, phase, stack, hks, hadvance, haccept⟩ := run_eq_ok_iff.1 h
  obtain ⟨rfl, ht⟩ := isType_of_accept hadvance haccept
  exact ⟨ks, rest, hks, ht⟩

end JavaType

end BuilderPlanner
