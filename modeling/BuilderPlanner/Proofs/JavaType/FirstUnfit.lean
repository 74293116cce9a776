import BuilderPlanner.Failure
import BuilderPlanner.Proofs.JavaType.Rereading
import Mathlib.Data.List.Basic

/-!
# The token that does not fit

A text that has tokens and is no type is refused at the first token after which nothing can make a
type of what was read. From every position of the reader some tokens lead to a type, so all tokens
before that one could still begin a type.

* `Phase.completion`, `closing` — tokens that complete the innermost type, and those around it;
* `exists_accept` — a type can be reached from every position;
* `Viable`, `BeginsType` — the tokens with which a list of tokens, or a text, that is a type begins;
* `Viable.advance`, `beginsType_of_advance` — these are the tokens that all fit;
* `first_unfit_token` — a text is refused at the first token with which no type can begin.
-/

namespace BuilderPlanner

namespace JavaType

/-! ### Ways to a type -/

/-- Tokens that complete the innermost type at a position. -/
def Phase.completion : Phase → List TokenKind
  | .start | .annotated | .nameDot _ => [.word "T"]
  | .annotating | .annotatingDot => [.word "T", .word "T"]
  | .bracket _ => [.closeBracket]
  | .name _ | .wildcard | .suffix _ => []

/-- Tokens that complete the types around a complete type. -/
def closing : List Frame → List TokenKind
  | [] => []
  | .limit _ :: stack => closing stack
  | .argument _ _ :: stack => .greater :: closing stack

/-- After these tokens the innermost type is complete. -/
theorem Phase.exists_leads (phase : Phase) (stack : List Frame) :
    ∃ t, Leads phase stack phase.completion followsType fun kind => complete kind t stack := by
  have hextend : ∀ t kind, followsType kind = true → extend kind t stack = complete kind t stack :=
    fun t kind hkind => extend_of_followsType hkind t stack
  have hname : ∀ n kind, followsType kind = true →
      step (.name n) stack kind = complete kind (plain n) stack := by
    intro n kind hkind
    rw [← hextend (plain n) kind hkind]
    cases kind with
    | comma | greater | finish => rfl
    | word | dot | less | openBracket | closeBracket | question | atSign => cases hkind
  have hwildcard : ∀ kind, followsType kind = true →
      step .wildcard stack kind = complete kind JavaType.wildcard stack := by
    intro kind hkind
    cases kind with
    | comma | greater | finish => rfl
    | word | dot | less | openBracket | closeBracket | question | atSign => cases hkind
  cases phase with
  | start => exact ⟨plain "T", .name "T", stack, rfl, hname "T"⟩
  | annotating => exact ⟨plain "T", .name "T", stack, rfl, hname "T"⟩
  | annotatingDot => exact ⟨plain "T", .name "T", stack, rfl, hname "T"⟩
  | annotated => exact ⟨plain "T", .name "T", stack, rfl, hname "T"⟩
  | name n => exact ⟨plain n, .name n, stack, rfl, hname n⟩
  | nameDot n => exact ⟨plain (n ++ "." ++ "T"), .name (n ++ "." ++ "T"), stack, rfl, hname _⟩
  | wildcard => exact ⟨JavaType.wildcard, .wildcard, stack, rfl, hwildcard⟩
  | suffix t => exact ⟨t, .suffix t, stack, rfl, hextend t⟩
  | bracket t => exact ⟨.array t, .suffix (.array t), stack, rfl, hextend (.array t)⟩

/-- A complete type can be closed by what is around it. -/
theorem Leads.exists_accept {phase : Phase} {stack stack₀ : List Frame} {ks : List TokenKind}
    {t : JavaType} (h : Leads phase stack₀ ks followsType fun kind => complete kind t stack) :
    ∃ phase' stack' u, advance phase stack₀ (ks ++ closing stack) = some (phase', stack') ∧
      step phase' stack' .finish = .accept u := by
  induction stack generalizing ks t with
  | nil =>
    obtain ⟨phase', stack', hadvance, hstep⟩ := h
    refine ⟨phase', stack', t, ?_, hstep .finish rfl⟩
    rw [closing, List.append_nil, hadvance]
  | cons frame stack ih =>
    cases frame with
    | limit b => exact ih h
    | argument n before =>
      have hclosed : Leads phase stack₀ (ks ++ [.greater]) followsType fun kind =>
          complete kind (.named n (before.reverse ++ [t])) stack :=
        ⟨.suffix (.named n (before.reverse ++ [t])), stack, h.advance_cons rfl rfl,
          fun kind hkind => extend_of_followsType hkind _ stack⟩
      have haccept := ih hclosed
      rwa [List.append_assoc] at haccept

/-- From every position some tokens lead to a type. -/
theorem exists_accept (phase : Phase) (stack : List Frame) :
    ∃ phase' stack' t,
      advance phase stack (phase.completion ++ closing stack) = some (phase', stack') ∧
        step phase' stack' .finish = .accept t := by
  obtain ⟨t, ht⟩ := phase.exists_leads stack
  exact ht.exists_accept

theorem word_not_mem_closing (w : String) (stack : List Frame) : .word w ∉ closing stack := by
  induction stack with
  | nil => exact List.not_mem_nil
  | cons frame stack ih =>
    cases frame with
    | limit b => exact ih
    | argument n before => simpa [closing] using ih

theorem allWords_completion (phase : Phase) (stack : List Frame) :
    AllWords (phase.completion ++ closing stack) := by
  have hword : IsWord "T" := ⟨'T', [], rfl, by decide +kernel, rfl, by decide +kernel, nofun⟩
  intro w hw
  have hw := (List.mem_append.1 hw).resolve_right (word_not_mem_closing w stack)
  have hT : w = "T" := by
    cases phase <;> simp_all [Phase.completion]
  exact hT ▸ hword

/-- Tokens that all fit can be continued to a type. -/
theorem exists_isType_of_advance {ks : List TokenKind} {phase : Phase} {stack : List Frame}
    (h : advance .start [] ks = some (phase, stack)) :
    ∃ ls t, AllWords ls ∧ IsType (ks ++ ls) t := by
  obtain ⟨phase', stack', t, hadvance, haccept⟩ := exists_accept phase stack
  refine ⟨_, t, allWords_completion phase stack, (isType_of_accept ?_ haccept).2⟩
  rw [advance_append, h, Option.bind_some, hadvance]

/-! ### The mark of the end -/

theorem complete_finish (t : JavaType) (stack : List Frame) :
    (∃ u, complete .finish t stack = .accept u) ∨ ∃ e, complete .finish t stack = .refuse e := by
  induction stack generalizing t with
  | nil => exact .inl ⟨t, rfl⟩
  | cons frame stack ih =>
    cases frame with
    | limit b => exact ih (.bounded b t)
    | argument n before => exact .inr ⟨.endOfArguments, rfl⟩

/-- The reader does not go on behind the mark of the end. -/
theorem step_finish_ne_next (phase phase' : Phase) (stack stack' : List Frame) :
    step phase stack .finish ≠ .next phase' stack' := by
  have hcomplete : ∀ t, complete .finish t stack ≠ .next phase' stack' := by
    intro t h
    rcases complete_finish t stack with ⟨u, hu⟩ | ⟨e, he⟩
    · cases hu.symm.trans h
    · cases he.symm.trans h
  cases phase with
  | name n => exact hcomplete (plain n)
  | wildcard => exact hcomplete .wildcard
  | suffix t => exact hcomplete t
  | start | annotating | annotatingDot | annotated | nameDot | bracket => nofun

theorem finish_not_mem_of_advance {ks : List TokenKind} {phase phase' : Phase}
    {stack stack' : List Frame} (h : advance phase stack ks = some (phase', stack')) :
    .finish ∉ ks := by
  induction ks generalizing phase stack with
  | nil => exact List.not_mem_nil
  | cons kind ks ih =>
    rw [advance] at h
    cases hstep : step phase stack kind with
    | next phase₁ stack₁ =>
      rw [hstep] at h
      intro hmem
      rcases List.mem_cons.1 hmem with rfl | hmem
      · exact step_finish_ne_next _ _ _ _ hstep
      · exact ih h hmem
    | accept u =>
      rw [hstep] at h
      cases h
    | refuse e =>
      rw [hstep] at h
      cases h

/-! ### Tokens that begin a type -/

/-- The tokens of some list that is read as a type begin so. -/
def Viable (ks : List TokenKind) : Prop :=
  ∃ tokens t, ofTokens tokens = .ok t ∧ ks <+: tokens.map Token.kind

/-- The tokens of some text that is read as a type begin so. -/
def BeginsType (ks : List TokenKind) : Prop :=
  ∃ text tokens t, Token.ofText text = .ok tokens ∧ ofText text = .ok t ∧
    ks <+: tokens.map Token.kind

theorem Viable.of_prefix {ks ls : List TokenKind} (h : Viable ls) (hks : ks <+: ls) : Viable ks := by
  obtain ⟨tokens, t, ht, hls⟩ := h
  exact ⟨tokens, t, ht, hks.trans hls⟩

theorem ofText_eq_ofTokens {text : String} {tokens : List Token}
    (h : Token.ofText text = .ok tokens) : ofText text = ofTokens tokens := by
  rw [ofText, h]

theorem BeginsType.viable {ks : List TokenKind} (h : BeginsType ks) : Viable ks := by
  obtain ⟨text, tokens, t, htokens, ht, hks⟩ := h
  exact ⟨tokens, t, ofText_eq_ofTokens htokens ▸ ht, hks⟩

/-- Tokens whose words are words are those of a text. -/
theorem exists_spells {ks : List TokenKind} (hwords : AllWords ks) (hfinish : .finish ∉ ks) :
    ∃ cs, Spells cs (ks ++ [.finish]) := by
  induction ks with
  | nil => exact ⟨[], .finish⟩
  | cons kind ks ih =>
    obtain ⟨cs, hcs⟩ := ih (hwords.subset (List.subset_cons_self kind ks))
      fun h => hfinish (List.mem_cons_of_mem kind h)
    -- a blank keeps words apart
    have hblank : Spells (' ' :: cs) (ks ++ [.finish]) := hcs.space
    cases kind with
    | word w =>
      exact ⟨_, .word (hwords w List.mem_cons_self) (endsWord_space _) hblank⟩
    | finish => exact absurd List.mem_cons_self hfinish
    | dot => exact ⟨'.' :: ' ' :: cs, .ofMark rfl hblank⟩
    | comma => exact ⟨',' :: ' ' :: cs, .ofMark rfl hblank⟩
    | less => exact ⟨'<' :: ' ' :: cs, .ofMark rfl hblank⟩
    | greater => exact ⟨'>' :: ' ' :: cs, .ofMark rfl hblank⟩
    | openBracket => exact ⟨'[' :: ' ' :: cs, .ofMark rfl hblank⟩
    | closeBracket => exact ⟨']' :: ' ' :: cs, .ofMark rfl hblank⟩
    | question => exact ⟨'?' :: ' ' :: cs, .ofMark rfl hblank⟩
    | atSign => exact ⟨'@' :: ' ' :: cs, .ofMark rfl hblank⟩

/-- The first tokens of a written form are those of a text that is a type. -/
theorem IsType.beginsType {ks ls : List TokenKind} {t : JavaType} (h : IsType (ks ++ ls) t)
    (hwords : AllWords (ks ++ ls)) : BeginsType ks := by
  obtain ⟨phase, stack, hadvance, -⟩ := h.leads []
  obtain ⟨cs, hcs⟩ := exists_spells hwords (finish_not_mem_of_advance hadvance)
  obtain ⟨tokens, htokens, hkinds⟩ := hcs.exists_scan 0
  have htext : Token.ofText (String.ofList cs) = .ok tokens := by
    rw [Token.ofText, String.toList_ofList, htokens]
  refine ⟨String.ofList cs, tokens, t, htext, ?_, ?_⟩
  · rw [ofText_eq_ofTokens htext]
    exact h.run hkinds 0
  · rw [hkinds, List.append_assoc]
    exact List.prefix_append ks _

/-! ### The token that is refused -/

/-- The reader goes on from the position after tokens that all fit. -/
theorem exists_run_append {before : List Token} (rest : List Token) {phase phase' : Phase}
    {stack stack' : List Frame} (offset : Nat)
    (h : advance phase stack (before.map Token.kind) = some (phase', stack')) :
    ∃ offset', run phase stack offset (before ++ rest) = run phase' stack' offset' rest := by
  induction before generalizing phase stack offset with
  | nil =>
    cases h
    exact ⟨offset, rfl⟩
  | cons token before ih =>
    rw [List.map_cons, advance] at h
    rw [List.cons_append, run]
    cases hstep : step phase stack token.kind with
    | next phase₁ stack₁ =>
      rw [hstep] at h
      exact ih _ h
    | accept u =>
      rw [hstep] at h
      cases h
    | refuse e =>
      rw [hstep] at h
      cases h

/-- No type begins with the tokens up to one that is refused. -/
theorem not_viable_of_refuse {ks : List TokenKind} {kind : TokenKind} {phase : Phase}
    {stack : List Frame} {expected : Expectation}
    (hadvance : advance .start [] ks = some (phase, stack))
    (hrefuse : step phase stack kind = .refuse expected) : ¬Viable (ks ++ [kind]) := by
  intro h
  obtain ⟨tokens, t, ht, more, hmore⟩ := h
  obtain ⟨front, rest, rfl, hfront, -⟩ := List.map_eq_append_iff.1 hmore.symm
  obtain ⟨before, last, rfl, rfl, hlast⟩ := List.map_eq_append_iff.1 hfront
  obtain ⟨token, rfl, rfl⟩ := List.map_eq_singleton_iff.1 hlast
  obtain ⟨offset, hrun⟩ := exists_run_append (token :: rest) 0 hadvance
  rw [ofTokens, List.append_assoc, List.singleton_append, hrun, run, hrefuse] at ht
  cases ht

/-- A list of tokens that is no type has a token that is refused after tokens that all fit, unless
all of them fit. -/
theorem exists_refused_of_run {tokens : List Token} {phase : Phase} {stack : List Frame}
    {offset : Nat} {fault : TypeFault} (h : run phase stack offset tokens = .error fault) :
    (∃ position, advance phase stack (tokens.map Token.kind) = some position) ∨
      ∃ before token after phase' stack' expected, tokens = before ++ token :: after ∧
        advance phase stack (before.map Token.kind) = some (phase', stack') ∧
        step phase' stack' token.kind = .refuse expected ∧
        fault = .unfit expected token.offset := by
  induction tokens generalizing phase stack offset with
  | nil => exact .inl ⟨(phase, stack), rfl⟩
  | cons token tokens ih =>
    rw [run] at h
    cases hstep : step phase stack token.kind with
    | next phase₁ stack₁ =>
      rw [hstep] at h
      rcases ih h with ⟨position, hall⟩ |
        ⟨before, refused, after, phase', stack', e, rfl, hb, hr, hf⟩
      · exact .inl ⟨position, by rw [List.map_cons, advance_cons hstep, hall]⟩
      · exact .inr ⟨token :: before, refused, after, phase', stack', e, rfl,
          by rw [List.map_cons, advance_cons hstep, hb], hr, hf⟩
    | accept u =>
      rw [hstep] at h
      cases h
    | refuse e =>
      rw [hstep] at h
      cases h
      exact .inr ⟨[], token, tokens, phase, stack, e, rfl, rfl, hstep, rfl⟩

/-- At most one token of a list cannot go on from tokens that begin a type. -/
theorem unfit_unique {before before' after after' : List Token} {token token' : Token}
    (heq : before ++ token :: after = before' ++ token' :: after')
    (hbefore : Viable (before.map Token.kind))
    (hno : ¬Viable (before.map Token.kind ++ [token.kind]))
    (hbefore' : Viable (before'.map Token.kind))
    (hno' : ¬Viable (before'.map Token.kind ++ [token'.kind])) :
    before = before' ∧ token = token' := by
  rcases List.append_eq_append_iff.1 heq with ⟨mid, rfl, hmid⟩ | ⟨mid, rfl, hmid⟩
  · cases mid with
    | nil => exact ⟨(List.append_nil before).symm, (List.cons.inj hmid).1⟩
    | cons _ mid =>
      obtain ⟨rfl, -⟩ := List.cons.inj hmid
      exact absurd (hbefore'.of_prefix ⟨mid.map Token.kind, by simp⟩) hno
  · cases mid with
    | nil => exact ⟨List.append_nil before', (List.cons.inj hmid).1.symm⟩
    | cons _ mid =>
      obtain ⟨rfl, -⟩ := List.cons.inj hmid
      exact absurd (hbefore.of_prefix ⟨mid.map Token.kind, by simp⟩) hno'

/-- **A text is refused at the first token that does not fit.** The place in the message is that of
the one token such that a type can begin with the tokens before it, and cannot begin with these and
it. If it is the mark of the end, the tokens before it are no type, but more tokens make them
one. -/
theorem first_unfit_token {text : String} {tokens : List Token} {f : Failure}
    (htokens : Token.ofText text = .ok tokens) (hreject : readType text = .error f) :
    ∃ expected before token after, tokens = before ++ token :: after ∧
      f = .typeText text (.unfit expected token.offset) ∧
      f.message = "type syntax error: " ++ (expected.describe ++ " at " ++
        toString token.offset ++ " in '" ++ text ++ "'") ∧
      BeginsType (before.map Token.kind) ∧
      ¬Viable (before.map Token.kind ++ [token.kind]) ∧
      (∀ before' token' after', tokens = before' ++ token' :: after' →
        Viable (before'.map Token.kind) → ¬Viable (before'.map Token.kind ++ [token'.kind]) →
        before' = before ∧ token' = token) ∧
      (token.kind = .finish → (∀ t, ¬IsType (before.map Token.kind) t) ∧
        ∃ ls t, ls ≠ [] ∧ IsType (before.map Token.kind ++ ls) t) := by
  have hread : readType text = (bind [] <$> ofTokens tokens).mapError (.typeText text) := by
    rw [readType, readTypeIn, ofTextIn, ofText_eq_ofTokens htokens]
  rw [hread] at hreject
  cases hrun : ofTokens tokens with
  | ok t =>
    rw [hrun] at hreject
    cases hreject
  | error fault =>
    rw [hrun] at hreject
    cases hreject
    obtain ⟨ks, hks, -⟩ := Token.exists_finish_of_scan htokens
    rcases exists_refused_of_run hrun with ⟨_, hall⟩ |
      ⟨before, token, after, phase, stack, expected, rfl, hadvance, hrefuse, rfl⟩
    · -- the mark of the end does not fit
      exact absurd (hks ▸ by simp) (finish_not_mem_of_advance hall)
    obtain ⟨ls, t, hls, ht⟩ := exists_isType_of_advance hadvance
    have hwords : AllWords (before.map Token.kind ++ ls) := by
      intro w hw
      rcases List.mem_append.1 hw with hw | hw
      · exact (Token.spells_of_scan htokens).isWord (by simp [hw])
      · exact hls w hw
    have hbegins := ht.beginsType hwords
    have hno := not_viable_of_refuse hadvance hrefuse
    refine ⟨expected, before, token, after, rfl, rfl, rfl, hbegins, hno, ?_, ?_⟩
    · intro before' token' after' heq hbefore' hno'
      exact unfit_unique heq.symm hbefore' hno' hbegins.viable hno
    · intro hfinish
      have hnone : ∀ t, ¬IsType (before.map Token.kind) t := by
        intro u hu
        have hkinds : (before ++ token :: after).map Token.kind =
            before.map Token.kind ++ .finish :: after.map Token.kind := by simp [hfinish]
        cases (hu.run hkinds 0).symm.trans hrun
      refine ⟨hnone, ls, t, ?_, ht⟩
      rintro rfl
      exact hnone t (by simpa using ht)

/-- No brackets follow a wildcard. -/
theorem first_unfit_token_wildcard :
    ∃ before token after, [⟨.word "Map", 0⟩, ⟨.less, 3⟩, ⟨.word "é", 4⟩, ⟨.comma, 6⟩,
        ⟨.question, 8⟩, ⟨.openBracket, 9⟩, ⟨.closeBracket, 10⟩, ⟨.greater, 11⟩, ⟨.finish, 12⟩] =
          before ++ token :: after ∧
      token.offset = 9 ∧ BeginsType (before.map Token.kind) ∧
      ¬Viable (before.map Token.kind ++ [token.kind]) := by
  have htokens : Token.ofText "Map<é, ?[]>" = .ok [⟨.word "Map", 0⟩, ⟨.less, 3⟩, ⟨.word "é", 4⟩,
      ⟨.comma, 6⟩, ⟨.question, 8⟩, ⟨.openBracket, 9⟩, ⟨.closeBracket, 10⟩, ⟨.greater, 11⟩,
      ⟨.finish, 12⟩] := by decide +kernel
  have hreject : readType "Map<é, ?[]>" =
      .error (.typeText "Map<é, ?[]>" (.unfit .endOfArguments 9)) := by decide +kernel
  obtain ⟨expected, before, token, after, hsplit, hf, -, hbegins, hno, -, -⟩ :=
    first_unfit_token htokens hreject
  simp only [Failure.typeText.injEq, TypeFault.unfit.injEq, true_and] at hf
  exact ⟨before, token, after, hsplit, hf.2.symm, hbegins, hno⟩

end JavaType

end BuilderPlanner
