import BuilderPlanner.Proofs.JavaType.Soundness
import BuilderPlanner.Proofs.Success

/-!
# What is in the grammar is read

A written form leads the reader to a position from which it goes on as from a complete type. So it
is read, and it is the form of one type only.

* `Leads` — what the reader does with a token after a list of tokens;
* `IsType.leads` — a written form of a type completes this type;
* `IsType.unique` — it is the form of no other type;
* `ofText_eq_ok_iff` — a text is read if and only if its tokens are in the grammar.
-/

namespace BuilderPlanner

/-! ### The tokens of a text -/

theorem TokenKind.ofMark?_ne_finish (c : Char) : TokenKind.ofMark? c ≠ some .finish := by
  unfold TokenKind.ofMark?
  split <;> nofun

/-- The mark of the end is the last token, and only that. -/
theorem Token.exists_finish_of_scan {offset : Nat} {cs : List Char} {tokens : List Token}
    (h : Token.scan offset cs = .ok tokens) :
    ∃ ks, tokens.map Token.kind = ks ++ [.finish] ∧ .finish ∉ ks := by
  induction offset, cs using Token.scan.induct generalizing tokens with
  | case1 offset =>
    rw [Token.scan] at h
    cases h
    exact ⟨[], rfl, List.not_mem_nil⟩
  | case2 offset c rest hblank ih =>
    rw [Token.scan, if_pos hblank] at h
    exact ih h
  | case3 offset c rest hblank kind hkind ih =>
    rw [Token.scan, if_neg hblank] at h
    simp only [hkind] at h
    obtain ⟨tokens, hrest, rfl⟩ := map_eq_ok_iff.1 h
    obtain ⟨ks, hks, hfinish⟩ := ih hrest
    refine ⟨kind :: ks, by rw [List.map_cons, hks, List.cons_append], ?_⟩
    intro hmem
    rcases List.mem_cons.1 hmem with rfl | hmem
    · exact TokenKind.ofMark?_ne_finish c hkind
    · exact hfinish hmem
  | case4 offset c rest hblank hbegins word hmark =>
    rename_i ih
    rw [Token.scan, if_neg hblank] at h
    simp only [hbegins, if_true] at h
    obtain ⟨tokens, hrest, rfl⟩ := map_eq_ok_iff.1 h
    obtain ⟨ks, hks, hfinish⟩ := ih hrest
    refine ⟨.word (String.ofList word) :: ks, by rw [List.map_cons, hks, List.cons_append], ?_⟩
    intro hmem
    rcases List.mem_cons.1 hmem with hword | hmem
    · cases hword
    · exact hfinish hmem
  | case5 offset c rest hblank hbegins hmark =>
    rw [Token.scan, if_neg hblank] at h
    simp only [hbegins] at h
    cases h

namespace JavaType

/-- After the tokens `ks` the reader takes the step `next kind` with each token `kind` that may
follow them. -/
def Leads (phase : Phase) (stack : List Frame) (ks : List TokenKind)
    (follows : TokenKind → Bool) (next : TokenKind → Step) : Prop :=
  ∃ phase' stack', advance phase stack ks = some (phase', stack') ∧
    ∀ kind, follows kind = true → step phase' stack' kind = next kind

/-- The tokens that may follow a type. -/
def followsType : TokenKind → Bool
  | .comma | .greater | .finish => true
  | _ => false

/-- The tokens that may follow a type that is no wildcard: those that neither go on with its name
nor begin its arguments. -/
def followsReference : TokenKind → Bool
  | .dot | .less => false
  | _ => true

theorem Leads.advance_cons {phase phase' : Phase} {stack stack' : List Frame}
    {ks ls : List TokenKind} {follows : TokenKind → Bool} {next : TokenKind → Step}
    {kind : TokenKind} (h : Leads phase stack ks follows next) (hkind : follows kind = true)
    (hnext : next kind = .next phase' stack') :
    advance phase stack (ks ++ kind :: ls) = advance phase' stack' ls := by
  obtain ⟨phase₁, stack₁, hadvance, hstep⟩ := h
  rw [advance_append, hadvance, Option.bind_some]
  exact JavaType.advance_cons ((hstep kind hkind).trans hnext) ls

/-! ### Names -/

section

variable {q : List TokenKind} {n : String}

theorem IsName.advance_name (h : IsName q n) (stack : List Frame) :
    advance .start stack q = some (.name n, stack) := by
  induction h with
  | word w => rfl
  | @dotted q n _ w ih =>
    rw [advance_append, ih]
    show advance (.name n) stack [.dot, .word w] = some (.name (n ++ "." ++ w), stack)
    rfl

theorem IsName.advance_annotation (h : IsName q n) (stack : List Frame) :
    advance .start stack (.atSign :: q) = some (.annotated, stack) := by
  induction h with
  | word w => rfl
  | dotted _ w ih =>
    rw [← List.cons_append, advance_append, ih]
    show advance .annotated stack [.dot, .word w] = some (.annotated, stack)
    rfl

theorem IsName.exists_word (h : IsName q n) : ∃ w rest, q = .word w :: rest := by
  induction h with
  | word w => exact ⟨w, [], rfl⟩
  | dotted _ w ih =>
    obtain ⟨v, rest, rfl⟩ := ih
    exact ⟨v, _, rfl⟩

end

/-! ### First tokens -/

theorem IsReference.exists_word {ks : List TokenKind} {t : JavaType} (h : IsReference ks t) :
    ∃ w rest, ks = .word w :: rest := by
  cases h with
  | plain hn => exact hn.exists_word
  | generic hn _ =>
    obtain ⟨w, rest, rfl⟩ := hn.exists_word
    exact ⟨w, _, rfl⟩
  | array h =>
    obtain ⟨w, rest, rfl⟩ := h.exists_word
    exact ⟨w, _, rfl⟩

/-- No type begins with a dot, so an annotation before it ends there. -/
theorem IsType.exists_cons {ks : List TokenKind} {t : JavaType} (h : IsType ks t) :
    ∃ kind rest, ks = kind :: rest ∧ kind ≠ .dot := by
  cases h with
  | annotated _ _ => exact ⟨.atSign, _, rfl, by decide⟩
  | wildcard => exact ⟨.question, [], rfl, by decide⟩
  | bounded b _ => exact ⟨.question, _, rfl, by decide⟩
  | reference h =>
    obtain ⟨w, rest, rfl⟩ := h.exists_word
    exact ⟨.word w, rest, rfl, nofun⟩

theorem IsType.advance_annotated {ks : List TokenKind} {t : JavaType} (h : IsType ks t)
    (stack : List Frame) :
    advance .annotated stack ks = advance .start stack ks := by
  obtain ⟨kind, rest, rfl, hdot⟩ := h.exists_cons
  have hstep : step .annotated stack kind = step .start stack kind := by
    cases kind with
    | dot => exact absurd rfl hdot
    | word | comma | less | greater | openBracket | closeBracket | question | atSign | finish => rfl
  rw [advance, advance, hstep]

/-! ### Types -/

/-- A complete type that is followed by no bracket. -/
theorem extend_of_followsType {kind : TokenKind} (h : followsType kind = true) (t : JavaType)
    (stack : List Frame) : extend kind t stack = complete kind t stack := by
  cases kind with
  | openBracket => cases h
  | word | dot | comma | less | greater | closeBracket | question | atSign | finish => rfl

theorem followsReference_of_followsType {kind : TokenKind} (h : followsType kind = true) :
    followsReference kind = true := by
  cases kind with
  | comma | greater | finish => rfl
  | word | dot | less | openBracket | closeBracket | question | atSign => cases h

theorem advance_question (b : Bound) (stack : List Frame) (ks : List TokenKind) :
    advance .start stack (.question :: .word b.keyword :: ks) =
      advance .start (.limit b :: stack) ks := by
  cases b with
  | upper => rfl
  | lower => rfl

/-- A written form of a type leads to where this type is complete, whatever is around it. -/
def TypeLeads (ks : List TokenKind) (t : JavaType) : Prop :=
  ∀ stack, Leads .start stack ks followsType fun kind => complete kind t stack

/-- A written form of a type that is no wildcard leads to where brackets may follow. -/
def ReferenceLeads (ks : List TokenKind) (t : JavaType) : Prop :=
  ∀ stack, Leads .start stack ks followsReference fun kind => extend kind t stack

/-- Written forms of type arguments lead to where the last of them is complete and the others are
in the frame. -/
def ArgumentsLead (ks : List TokenKind) (ts : List JavaType) : Prop :=
  ∀ n before stack, ∃ first last, ts = first ++ [last] ∧
    Leads .start (.argument n before :: stack) ks followsType fun kind =>
      complete kind last (.argument n (first.reverse ++ before) :: stack)

section

variable {q ks ls : List TokenKind} {n : String} {t : JavaType} {ts : List JavaType}

theorem TypeLeads.annotated (hn : IsName q n) (ht : IsType ks t) (h : TypeLeads ks t) :
    TypeLeads (.atSign :: q ++ ks) t := by
  intro stack
  obtain ⟨phase, stack', hadvance, hstep⟩ := h stack
  refine ⟨phase, stack', ?_, hstep⟩
  rw [advance_append, hn.advance_annotation stack, Option.bind_some, ht.advance_annotated stack,
    hadvance]

theorem TypeLeads.wildcard : TypeLeads [.question] .wildcard := by
  intro stack
  refine ⟨.wildcard, stack, rfl, ?_⟩
  intro kind hkind
  cases kind with
  | comma | greater | finish => rfl
  | word | dot | less | openBracket | closeBracket | question | atSign => cases hkind

theorem TypeLeads.bounded (b : Bound) (h : TypeLeads ks t) :
    TypeLeads (.question :: .word b.keyword :: ks) (.bounded b t) := by
  intro stack
  obtain ⟨phase, stack', hadvance, hstep⟩ := h (.limit b :: stack)
  refine ⟨phase, stack', ?_, hstep⟩
  rw [advance_question, hadvance]

theorem ReferenceLeads.type (h : ReferenceLeads ks t) : TypeLeads ks t := by
  intro stack
  obtain ⟨phase, stack', hadvance, hstep⟩ := h stack
  refine ⟨phase, stack', hadvance, ?_⟩
  intro kind hkind
  show step phase stack' kind = complete kind t stack
  rw [← extend_of_followsType hkind]
  exact hstep kind (followsReference_of_followsType hkind)

theorem ReferenceLeads.plain (hn : IsName q n) : ReferenceLeads q (.plain n) := by
  intro stack
  refine ⟨.name n, stack, hn.advance_name stack, ?_⟩
  intro kind hkind
  cases kind with
  | dot | less => cases hkind
  | word | comma | greater | openBracket | closeBracket | question | atSign | finish => rfl

theorem ReferenceLeads.generic (hn : IsName q n) (h : ArgumentsLead ks ts) :
    ReferenceLeads (q ++ .less :: ks ++ [.greater]) (.named n ts) := by
  intro stack
  obtain ⟨first, last, rfl, hleads⟩ := h n [] stack
  refine ⟨.suffix (.named n (first ++ [last])), stack, ?_, fun kind _ => rfl⟩
  have hclose : complete .greater last (.argument n (first.reverse ++ []) :: stack) =
      .next (.suffix (.named n (first ++ [last]))) stack := by
    rw [complete, List.append_nil, List.reverse_reverse]
  rw [List.append_assoc, advance_append, hn.advance_name stack, Option.bind_some]
  exact hleads.advance_cons rfl hclose

theorem ReferenceLeads.array (h : ReferenceLeads ks t) :
    ReferenceLeads (ks ++ [.openBracket, .closeBracket]) (.array t) := by
  intro stack
  have hopen : extend .openBracket t stack = .next (.bracket t) stack := rfl
  refine ⟨.suffix (.array t), stack, ?_, fun kind _ => rfl⟩
  rw [(h stack).advance_cons rfl hopen]
  show advance (.bracket t) stack [.closeBracket] = some (.suffix (.array t), stack)
  rfl

theorem ArgumentsLead.one (h : TypeLeads ks t) : ArgumentsLead ks [t] :=
  fun _ _ _ => ⟨[], t, rfl, h _⟩

theorem ArgumentsLead.more (h : ArgumentsLead ks ts) (ht : TypeLeads ls t) :
    ArgumentsLead (ks ++ .comma :: ls) (ts ++ [t]) := by
  intro n before stack
  obtain ⟨first, last, rfl, hleads⟩ := h n before stack
  obtain ⟨phase, stack', hadvance, hstep⟩ :=
    ht (.argument n (last :: (first.reverse ++ before)) :: stack)
  have hcomma : complete .comma last (.argument n (first.reverse ++ before) :: stack) =
      .next .start (.argument n (last :: (first.reverse ++ before)) :: stack) := rfl
  refine ⟨first ++ [last], t, rfl, phase, stack', ?_, ?_⟩
  · rw [hleads.advance_cons rfl hcomma, hadvance]
  · rw [List.reverse_append, List.reverse_singleton, List.singleton_append, List.cons_append]
    exact hstep

end

/-- Every written form of a type leads to where this type is complete: one case for each rule of the
grammar. -/
theorem IsType.leads {ks : List TokenKind} {t : JavaType} (h : IsType ks t) : TypeLeads ks t :=
  @IsType.rec (fun ks t _ => TypeLeads ks t) (fun ks t _ => ReferenceLeads ks t)
    (fun ks ts _ => ArgumentsLead ks ts)
    (fun hn ht h => h.annotated hn ht)
    .wildcard
    (fun b _ _ _ h => h.bounded b)
    (fun _ h => h.type)
    .plain
    (fun hn _ h => .generic hn h)
    (fun _ h => h.array)
    (fun _ h => .one h)
    (fun _ _ h ht => h.more ht)
    ks t h

/-! ### Whole lists of tokens -/

/-- A written form at the end of the tokens is read. -/
theorem IsType.run {ks rest : List TokenKind} {t : JavaType} (h : IsType ks t)
    {tokens : List Token} (htokens : tokens.map Token.kind = ks ++ .finish :: rest) (offset : Nat) :
    run .start [] offset tokens = .ok t := by
  obtain ⟨phase, stack, hadvance, hstep⟩ := h.leads []
  exact run_eq_ok_iff.2 ⟨ks, .finish, rest, phase, stack, htokens, hadvance, hstep .finish rfl⟩

/-- A list of tokens is the written form of at most one type. -/
theorem IsType.unique {ks : List TokenKind} {t u : JavaType} (ht : IsType ks t)
    (hu : IsType ks u) : t = u := by
  obtain ⟨phase, stack, hadvance, hstep⟩ := ht.leads []
  obtain ⟨phase', stack', hadvance', hstep'⟩ := hu.leads []
  cases hadvance.symm.trans hadvance'
  have heq : Step.accept t = Step.accept u := (hstep .finish rfl).symm.trans (hstep' .finish rfl)
  exact Step.accept.inj heq

/-- **The reader accepts its grammar.** A text is read as a type if and only if it has tokens and
these, up to the mark of the end, are a written form of this type. No list of tokens is a written
form of two types. -/
theorem ofText_eq_ok_iff (text : String) (t : JavaType) :
    (ofText text = .ok t ↔ ∃ tokens ks, Token.ofText text = .ok tokens ∧
      tokens.map Token.kind = ks ++ [.finish] ∧ IsType ks t) ∧
    ∀ ks u v, IsType ks u → IsType ks v → u = v := by
  refine ⟨?_, fun ks u v hu hv => hu.unique hv⟩
  constructor
  · intro h
    unfold ofText at h
    split at h
    · rename_i tokens htokens
      obtain ⟨ks, rest, hks, ht⟩ := isType_of_run h
      obtain ⟨ls, hls, hfinish⟩ := Token.exists_finish_of_scan htokens
      -- the mark of the end is the last token, so nothing follows it
      have heq := hks.symm.trans hls
      rcases List.append_eq_append_iff.1 heq with ⟨ms, hms, hrest⟩ | ⟨ms, hms, hrest⟩
      · cases ms with
        | nil =>
          rw [List.nil_append] at hrest
          exact ⟨tokens, ks, htokens, by rw [hks, hrest], ht⟩
        | cons kind ms =>
          obtain ⟨rfl, -⟩ := List.cons.inj hrest
          exact absurd (hms ▸ by simp) hfinish
      · cases ms with
        | nil =>
          rw [List.nil_append] at hrest
          exact ⟨tokens, ks, htokens, by rw [hks, hrest], ht⟩
        | cons kind ms => exact absurd hrest (by simp)
    · cases h
  · intro h
    obtain ⟨tokens, ks, htokens, hks, ht⟩ := h
    rw [ofText, htokens]
    exact ht.run hks 0

end JavaType

end BuilderPlanner
