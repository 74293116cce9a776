import BuilderPlanner.Proofs.JavaType.Completeness
import BuilderPlanner.Proofs.JavaType.Descent

/-!
# The descent stays within its tokens and ends

The calls of the descent look at tokens by number and go as deep as their depth lets them. But none
moves on behind the mark of the end, and every loop, and every call inside another, moves on before
it comes round; so a depth of as many steps as there are tokens up to the mark is enough for all of
them. The reader with its stack tells what they come to: wherever a call begins, the reader goes on
from there in the same way as from where the call ends.

* `Marked`, `markPlace` — tokens with the mark of the end as the last one, and the place of the
  first;
* `Cursor.Within` — cursors that have not passed it;
* `follow` — what the reader does from a place on;
* `Agrees` — a call that ends if it may go deep enough, stays within the tokens, and agrees with the
  reader;
* `nameFrom_agrees`, `annotations_agrees`, `brackets_agrees`, `arguments_agrees`, `types_agree` — the
  calls with a loop or a call of themselves, by induction on the depth;
* `read_within_tokens` — the whole descent ends, never looks behind the first mark of the end, and
  reads what the reader reads.
-/

namespace BuilderPlanner

namespace JavaType

namespace Descent

variable {tokens : List Token} {token : Token} {s : Cursor}

/-! ### The first mark of the end -/

/-- The last token is the mark of the end. -/
def Marked (tokens : List Token) : Prop := ∃ token ∈ tokens.getLast?, token.kind = .finish

/-- The place of the first mark of the end. -/
def markPlace (tokens : List Token) : Nat := tokens.findIdx fun token => token.kind = .finish

theorem Marked.markPlace_lt (h : Marked tokens) : markPlace tokens < tokens.length := by
  obtain ⟨token, hlast, hkind⟩ := h
  refine List.findIdx_lt_length_of_exists ⟨token, List.mem_of_getLast? hlast, ?_⟩
  exact decide_eq_true hkind

/-- All tokens of a text end in the mark of the end. -/
theorem marked_of_ofText {text : String} (h : Token.ofText text = .ok tokens) : Marked tokens := by
  obtain ⟨ks, hks, -⟩ := Token.exists_finish_of_scan h
  obtain ⟨before, last, rfl, -, hlast⟩ := List.map_eq_append_iff.1 hks
  obtain ⟨token, rfl, hkind⟩ := List.map_eq_singleton_iff.1 hlast
  exact ⟨token, by simp, hkind⟩

/-! ### Cursors within the tokens -/

/-- A cursor that has not passed the first mark of the end, and has looked at every token that it has
passed and at none ahead of it. -/
structure Cursor.Within (tokens : List Token) (s : Cursor) : Prop where
  mark_lt : markPlace tokens < tokens.length
  place_le : s.place ≤ markPlace tokens
  looked_le : ∀ i ∈ s.looked, i ≤ s.place
  mem_looked : ∀ i < s.place, i ∈ s.looked

namespace Cursor.Within

theorem first (h : Marked tokens) : Cursor.first.Within tokens where
  mark_lt := h.markPlace_lt
  place_le := Nat.zero_le _
  looked_le := nofun
  mem_looked := nofun

theorem look (h : s.Within tokens) : s.look.Within tokens where
  mark_lt := h.mark_lt
  place_le := h.place_le
  looked_le := by
    intro i hi
    rcases List.mem_cons.1 hi with rfl | hi
    · exact Nat.le_refl _
    · exact h.looked_le i hi
  mem_looked := fun i hi => List.mem_cons_of_mem _ (h.mem_looked i hi)

theorem exists_token (h : s.Within tokens) : ∃ token, tokens[s.place]? = some token :=
  ⟨_, List.getElem?_eq_getElem (Nat.lt_of_le_of_lt h.place_le h.mark_lt)⟩

/-- A cursor at another token has not come to the mark of the end yet. -/
theorem place_lt (h : s.Within tokens) (hat : tokens[s.place]? = some token)
    (hkind : token.kind ≠ .finish) : s.place < markPlace tokens := by
  refine Nat.lt_of_le_of_ne h.place_le fun heq => hkind ?_
  obtain ⟨hlt, rfl⟩ := List.getElem?_eq_some_iff.1 hat
  have hmark := List.findIdx_getElem (w := h.mark_lt)
  simp only [heq]
  exact of_decide_eq_true hmark

/-- After a look at another token than the mark of the end, the cursor may move on. -/
theorem next (h : s.Within tokens) (hat : tokens[s.place]? = some token)
    (hkind : token.kind ≠ .finish) : s.look.next.Within tokens where
  mark_lt := h.mark_lt
  place_le := h.place_lt hat hkind
  looked_le := by
    intro i hi
    exact Nat.le_succ_of_le (h.look.looked_le i hi)
  mem_looked := by
    intro i hi
    rcases Nat.lt_succ_iff_lt_or_eq.1 hi with hi | rfl
    · exact h.look.mem_looked i hi
    · exact List.mem_cons_self

end Cursor.Within

/-! ### What the reader does from a place on -/

/-- What the reader does with the tokens from a place on, if it takes the step `next kind` with the
first of them. -/
def follow (tokens : List Token) (next : TokenKind → Step) (place : Nat) :
    Except TypeFault JavaType :=
  match tokens.drop place with
  | [] => .error (.unfit .token 0)
  | token :: rest =>
    match next token.kind with
    | .next phase stack => run phase stack token.offset rest
    | .accept t => .ok t
    | .refuse expected => .error (.unfit expected token.offset)

section

variable {next next' : TokenKind → Step} {phase : Phase} {stack : List Frame} {place : Nat}

theorem drop_of_getElem? (hat : tokens[place]? = some token) :
    tokens.drop place = token :: tokens.drop (place + 1) := by
  obtain ⟨hlt, rfl⟩ := List.getElem?_eq_some_iff.1 hat
  exact List.drop_eq_getElem_cons hlt

theorem follow_congr (hat : tokens[place]? = some token) (h : next token.kind = next' token.kind) :
    follow tokens next place = follow tokens next' place := by
  rw [follow, follow, drop_of_getElem? hat]
  simp only [h]

theorem follow_accept {t : JavaType} (hat : tokens[place]? = some token)
    (h : next token.kind = .accept t) : follow tokens next place = .ok t := by
  rw [follow, drop_of_getElem? hat]
  simp only [h]

theorem follow_refuse {expected : Expectation} (hat : tokens[place]? = some token)
    (h : next token.kind = .refuse expected) :
    follow tokens next place = .error (.unfit expected token.offset) := by
  rw [follow, drop_of_getElem? hat]
  simp only [h]

/-- Where a token is at hand, the reader goes on by its own steps. -/
theorem follow_step (hat : tokens[place]? = some token) (offset : Nat) :
    follow tokens (step phase stack) place = run phase stack offset (tokens.drop place) := by
  rw [follow, drop_of_getElem? hat]
  rfl

/-- Behind a token that fits there is another one, unless it is the mark of the end. -/
theorem follow_next {kind : TokenKind} (hs : s.Within tokens) (hat : tokens[s.place]? = some token)
    (hkind : token.kind = kind) (hfinish : kind ≠ .finish) (h : next kind = .next phase stack) :
    follow tokens next s.place = follow tokens (step phase stack) (s.place + 1) := by
  subst hkind
  obtain ⟨token', hat'⟩ : ∃ token', tokens[s.place + 1]? = some token' :=
    (hs.next hat hfinish).exists_token
  rw [follow_step hat' token.offset, follow, drop_of_getElem? hat]
  simp only [h]

/-- The reader itself begins at the first token. -/
theorem ofTokens_eq_follow (h : Marked tokens) :
    ofTokens tokens = follow tokens (step .start []) 0 := by
  cases tokens with
  | nil => exact absurd h.markPlace_lt (Nat.not_lt_zero _)
  | cons token rest => rfl

end

/-! ### Calls that agree with the reader -/

/-- A call that ends in one way whenever it may go at least `least` deep, and leaves the cursor
within the tokens and not before where it was. If it has a result then `Q` holds of this, and if it
breaks off then with the fault of the reader, which makes `whole` of the tokens. -/
inductive Agrees {α : Type} (tokens : List Token) (whole : Except TypeFault JavaType) (least : Nat)
    (x : Nat → Call α) (s : Cursor) (Q : α → Cursor → Prop) : Prop
  | result {a : α} {s' : Cursor} (hx : ∀ depth, least ≤ depth → x depth s = some (.ok a, s'))
      (hs' : s'.Within tokens) (hle : s.place ≤ s'.place) (hq : Q a s')
  | fault {f : TypeFault} {s' : Cursor}
      (hx : ∀ depth, least ≤ depth → x depth s = some (.error (.fault f), s'))
      (hs' : s'.Within tokens) (hwhole : whole = .error f)

theorem bind_eq_of_ok {α β : Type} {x : Call α} {f : α → Call β} {a : α} {s' : Cursor}
    (hx : x s = some (.ok a, s')) : (x >>= f) s = f a s' := by
  show (x s).bind _ = _
  rw [hx]
  rfl

theorem bind_eq_of_error {α β : Type} {x : Call α} {f : α → Call β} {halt : Halt} {s' : Cursor}
    (hx : x s = some (.error halt, s')) : (x >>= f) s = some (.error halt, s') := by
  show (x s).bind _ = _
  rw [hx]
  rfl

section

variable {α β : Type} {whole : Except TypeFault JavaType} {least : Nat} {x y : Nat → Call α}
  {f : Nat → α → Call β} {Q : α → Cursor → Prop} {R : β → Cursor → Prop}

theorem Agrees.pure {a : α} (hs : s.Within tokens) (h : Q a s) :
    Agrees tokens whole least (fun _ => Pure.pure a) s Q :=
  .result (fun _ _ => rfl) hs (Nat.le_refl _) h

theorem Agrees.imp {Q' : α → Cursor → Prop} (h : Agrees tokens whole least x s Q)
    (hq : ∀ a s', s.place ≤ s'.place → Q a s' → Q' a s') : Agrees tokens whole least x s Q' := by
  cases h with
  | result hx hs' hle ha => exact .result hx hs' hle (hq _ _ hle ha)
  | fault hx hs' hwhole => exact .fault hx hs' hwhole

/-- A call goes one step deeper. -/
theorem agrees_succ_iff :
    Agrees tokens whole (least + 1) x s Q ↔
      Agrees tokens whole least (fun depth => x (depth + 1)) s Q := by
  constructor
  · intro h
    cases h with
    | result hx hs' hle hq => exact .result (fun d hd => hx _ (Nat.succ_le_succ hd)) hs' hle hq
    | fault hx hs' hwhole => exact .fault (fun d hd => hx _ (Nat.succ_le_succ hd)) hs' hwhole
  · intro h
    have hshift : ∀ {r}, (∀ depth, least ≤ depth → x (depth + 1) s = r) →
        ∀ depth, least + 1 ≤ depth → x depth s = r := by
      intro r hx depth hdepth
      obtain ⟨depth, rfl⟩ := Nat.exists_eq_add_of_le' (Nat.le_of_add_left_le hdepth)
      exact hx depth (Nat.le_of_succ_le_succ hdepth)
    cases h with
    | result hx hs' hle hq => exact .result (hshift hx) hs' hle hq
    | fault hx hs' hwhole => exact .fault (hshift hx) hs' hwhole

/-- A call that goes on like another one, from a cursor not before its own. -/
theorem Agrees.of_eq {y z : Nat → Call β} {s' : Cursor}
    (hz : ∀ depth, least ≤ depth → z depth s = y depth s') (hle : s.place ≤ s'.place)
    (h : Agrees tokens whole least y s' R) : Agrees tokens whole least z s R := by
  cases h with
  | result hy hs'' hle' hr =>
    exact .result (fun d hd => (hz d hd).trans (hy d hd)) hs'' (Nat.le_trans hle hle') hr
  | fault hy hs'' hwhole => exact .fault (fun d hd => (hz d hd).trans (hy d hd)) hs'' hwhole

/-- A call with a known result comes first. -/
theorem Agrees.bind_of_eq {a : α} {s' : Cursor} (hx : ∀ depth, x depth s = some (.ok a, s'))
    (hle : s.place ≤ s'.place) (h : Agrees tokens whole least (fun depth => f depth a) s' R) :
    Agrees tokens whole least (fun depth => x depth >>= f depth) s R :=
  h.of_eq (fun d _ => bind_eq_of_ok (hx d)) hle

theorem Agrees.bind (h : Agrees tokens whole least x s Q)
    (hf : ∀ a s', s'.Within tokens → s.place ≤ s'.place → Q a s' →
      Agrees tokens whole least (fun depth => f depth a) s' R) :
    Agrees tokens whole least (fun depth => x depth >>= f depth) s R := by
  cases h with
  | result hx hs' hle hq =>
    exact (hf _ _ hs' hle hq).of_eq (fun d hd => bind_eq_of_ok (hx d hd)) hle
  | fault hx hs' hwhole => exact .fault (fun d hd => bind_eq_of_error (hx d hd)) hs' hwhole

/-- A call that has moved on needs to go one step less deep. -/
theorem room_next {bound : Nat} (h : bound < s.place + (least + 1)) :
    bound < s.look.next.place + least := by
  show bound < s.place + 1 + least
  omega

/-! ### Looks at a token -/

theorem current_eq (hat : tokens[s.place]? = some token) :
    current tokens s = some (.ok token, s.look) := by
  rw [current, hat]

theorem current_bind_agrees {f : Nat → Token → Call β} (hat : tokens[s.place]? = some token)
    (h : Agrees tokens whole least (fun depth => f depth token) s.look R) :
    Agrees tokens whole least (fun depth => current tokens >>= f depth) s R :=
  .bind_of_eq (fun _ => current_eq hat) (Nat.le_refl _) h

theorem advance_bind_agrees {f : Nat → Unit → Call β}
    (h : Agrees tokens whole least (fun depth => f depth ()) s.next R) :
    Agrees tokens whole least (fun depth => advance >>= f depth) s R :=
  .bind_of_eq (fun _ => rfl) (Nat.le_succ _) h

theorem refuse_agrees {expected : Expectation} (hs : s.Within tokens)
    (hat : tokens[s.place]? = some token) (h : whole = .error (.unfit expected token.offset)) :
    Agrees tokens whole least (fun _ => refuse tokens expected) s Q :=
  current_bind_agrees hat (.fault (fun _ _ => rfl) hs.look h)

/-- Whether a token of the kind `mark` is at hand decides how the call goes on. -/
theorem ifConsumed_agrees {mark : TokenKind} (hs : s.Within tokens)
    (hat : tokens[s.place]? = some token) (hmark : mark ≠ .finish)
    (hyes : token.kind = mark → s.look.next.Within tokens →
      Agrees tokens whole least x s.look.next Q)
    (hno : token.kind ≠ mark → s.look.Within tokens → Agrees tokens whole least y s.look Q) :
    Agrees tokens whole least
      (fun depth => do if ← consumeIf tokens mark then x depth else y depth) s Q := by
  by_cases hkind : token.kind = mark
  · have hcall : consumeIf tokens mark s = some (.ok true, s.look.next) := by
      rw [consumeIf, bind_eq_of_ok (current_eq hat), if_pos hkind]
      rfl
    exact .bind_of_eq (fun _ => hcall) (Nat.le_succ _) (hyes hkind (hs.next hat (hkind ▸ hmark)))
  · have hcall : consumeIf tokens mark s = some (.ok false, s.look) := by
      rw [consumeIf, bind_eq_of_ok (current_eq hat), if_neg hkind]
      rfl
    exact .bind_of_eq (fun _ => hcall) (Nat.le_refl _) (hno hkind hs.look)

theorem expect_agrees {mark : TokenKind} {expected : Expectation} {next : TokenKind → Step}
    {phase : Phase} {stack : List Frame} (hs : s.Within tokens)
    (hat : tokens[s.place]? = some token) (hmark : mark ≠ .finish)
    (hwhole : whole = follow tokens next s.place) (hyes : next mark = .next phase stack)
    (hno : token.kind ≠ mark → next token.kind = .refuse expected) :
    Agrees tokens whole least (fun _ => expect tokens mark expected) s fun _ s' =>
      s.place < s'.place ∧ whole = follow tokens (step phase stack) s'.place := by
  refine ifConsumed_agrees hs hat hmark ?_ ?_
  · intro hkind hnext
    exact .pure hnext ⟨Nat.lt_succ_self _, hwhole.trans (follow_next hs hat hkind hmark hyes)⟩
  · intro hkind hlook
    exact refuse_agrees hlook hat (hwhole.trans (follow_refuse hat (hno hkind)))

/-! ### Words and names -/

/-- The step of the reader where it wants a word. -/
def wordStep (expected : Expectation) (phase : String → Phase) (stack : List Frame) :
    TokenKind → Step
  | .word w => .next (phase w) stack
  | _ => .refuse expected

theorem expectWord_agrees {expected : Expectation} {phase : String → Phase} {stack : List Frame}
    (hs : s.Within tokens) (hwhole : whole = follow tokens (wordStep expected phase stack) s.place) :
    Agrees tokens whole least (fun _ => expectWord tokens expected) s fun w s' =>
      s.place < s'.place ∧ whole = follow tokens (step (phase w) stack) s'.place := by
  obtain ⟨token, hat⟩ := hs.exists_token
  refine current_bind_agrees hat ?_
  cases hkind : token.kind with
  | word w =>
    have hnext := hs.next hat (hkind ▸ nofun)
    refine advance_bind_agrees (.pure hnext ⟨Nat.lt_succ_self _, ?_⟩)
    exact hwhole.trans (follow_next hs hat hkind nofun rfl)
  | dot | comma | less | greater | openBracket | closeBracket | question | atSign | finish =>
    exact refuse_agrees hs.look hat (hwhole.trans (follow_refuse hat (by rw [hkind]; rfl)))

/-- Phases in which the reader has a name, and goes on with it behind a dot. -/
structure Naming (phase : String → Phase) (stack : List Frame) : Prop where
  dot : ∀ n, ∃ dotted, step (phase n) stack .dot = .next dotted stack ∧
    step dotted stack = wordStep .wordAfterDot (fun w => phase (n ++ "." ++ w)) stack

theorem naming_name (stack : List Frame) : Naming .name stack where
  dot n := by
    refine ⟨.nameDot n, rfl, ?_⟩
    funext kind
    cases kind <;> rfl

theorem naming_annotated (stack : List Frame) : Naming (fun _ => .annotated) stack where
  dot n := by
    refine ⟨.annotatingDot, rfl, ?_⟩
    funext kind
    cases kind <;> rfl

/-- Where a name is complete: no dot is at hand. -/
def Named (tokens : List Token) (whole : Except TypeFault JavaType) (phase : String → Phase)
    (stack : List Frame) (n : String) (s : Cursor) : Prop :=
  ∃ token, tokens[s.place]? = some token ∧ token.kind ≠ .dot ∧
    whole = follow tokens (step (phase n) stack) s.place

theorem nameFrom_agrees {phase : String → Phase} {stack : List Frame} (h : Naming phase stack)
    (hs : s.Within tokens) (hroom : markPlace tokens < s.place + least) {words : List String}
    (hne : words ≠ [])
    (hwhole : whole = follow tokens (step (phase (".".intercalate words)) stack) s.place) :
    Agrees tokens whole least (fun depth => nameFrom tokens depth words) s
      (Named tokens whole phase stack) := by
  induction least generalizing s words with
  | zero => exact absurd hroom (Nat.not_lt_of_le hs.place_le)
  | succ least ih =>
    obtain ⟨token, hat⟩ := hs.exists_token
    rw [agrees_succ_iff]
    refine ifConsumed_agrees hs hat nofun ?_ ?_
    · intro hkind hnext
      obtain ⟨dotted, hdot, hdotted⟩ := h.dot (".".intercalate words)
      have hword : whole = follow tokens (step dotted stack) s.look.next.place :=
        hwhole.trans (follow_next hs hat hkind nofun hdot)
      rw [hdotted] at hword
      refine (expectWord_agrees hnext hword).bind ?_
      rintro w s' hs' hle ⟨hlt, hwhole'⟩
      have hplace : s.place + 1 < s'.place := hlt
      refine ih hs' (by omega) (by simp) ?_
      rw [hwhole', String.intercalate_append_of_ne_nil hne (List.cons_ne_nil w [])]
      rfl
    · intro hkind hlook
      exact .pure hlook ⟨token, hat, hkind, hwhole⟩

theorem name_agrees {phase : String → Phase} {stack : List Frame} (h : Naming phase stack)
    (hs : s.Within tokens) (hroom : markPlace tokens < s.place + least)
    (hwhole : whole = follow tokens (wordStep .typeName phase stack) s.place) :
    Agrees tokens whole least (name tokens) s fun n s' =>
      s.place < s'.place ∧ Named tokens whole phase stack n s' := by
  refine (expectWord_agrees hs hwhole).bind ?_
  rintro w s' hs' - ⟨hlt, hwhole'⟩
  refine (nameFrom_agrees h hs' (by omega) (List.cons_ne_nil w []) hwhole').imp ?_
  exact fun n s'' hle hnamed => ⟨Nat.lt_of_lt_of_le hlt hle, hnamed⟩

/-! ### Annotations and brackets -/

theorem step_annotating (stack : List Frame) :
    step .annotating stack = wordStep .typeName (fun _ => .annotated) stack := by
  funext kind
  cases kind <;> rfl

/-- Where a type begins behind its annotations. -/
def Unannotated (tokens : List Token) (whole : Except TypeFault JavaType) (stack : List Frame)
    (s : Cursor) : Prop :=
  ∃ token, tokens[s.place]? = some token ∧ token.kind ≠ .atSign ∧
    whole = follow tokens (step .start stack) s.place

theorem annotations_agrees {stack : List Frame} (hs : s.Within tokens)
    (hroom : markPlace tokens < s.place + least)
    (hwhole : whole = follow tokens (step .start stack) s.place) :
    Agrees tokens whole least (annotations tokens) s fun _ => Unannotated tokens whole stack := by
  induction least generalizing s with
  | zero => exact absurd hroom (Nat.not_lt_of_le hs.place_le)
  | succ least ih =>
    obtain ⟨token, hat⟩ := hs.exists_token
    rw [agrees_succ_iff]
    refine ifConsumed_agrees hs hat nofun ?_ ?_
    · intro hkind hnext
      have hname : whole = follow tokens (step .annotating stack) s.look.next.place :=
        hwhole.trans (follow_next hs hat hkind nofun rfl)
      rw [step_annotating] at hname
      refine (name_agrees (naming_annotated stack) hnext (room_next hroom) hname).bind ?_
      rintro n s' hs' - ⟨hlt, token', hat', hdot, hwhole'⟩
      have hplace : s.place + 1 < s'.place := hlt
      refine ih hs' (by omega) (hwhole'.trans (follow_congr hat' ?_))
      cases hkind' : token'.kind with
      | dot => exact absurd hkind' hdot
      | word | comma | less | greater | openBracket | closeBracket | question | atSign | finish =>
        rfl
    · intro hkind hlook
      exact .pure hlook ⟨token, hat, hkind, hwhole⟩

/-- What the reader does behind a complete type. -/
def completed (t : JavaType) (stack : List Frame) (kind : TokenKind) : Step := complete kind t stack

theorem brackets_agrees {t : JavaType} {stack : List Frame} (hs : s.Within tokens)
    (hroom : markPlace tokens < s.place + least)
    (hwhole : whole = follow tokens (step (.suffix t) stack) s.place) :
    Agrees tokens whole least (fun depth => brackets tokens depth t) s fun u s' =>
      whole = follow tokens (completed u stack) s'.place := by
  induction least generalizing s t with
  | zero => exact absurd hroom (Nat.not_lt_of_le hs.place_le)
  | succ least ih =>
    obtain ⟨token, hat⟩ := hs.exists_token
    rw [agrees_succ_iff]
    refine ifConsumed_agrees hs hat nofun ?_ ?_
    · intro hkind hnext
      obtain ⟨token', hat'⟩ := hnext.exists_token
      have hbracket : whole = follow tokens (step (.bracket t) stack) s.look.next.place :=
        hwhole.trans (follow_next hs hat hkind nofun rfl)
      have hmark : TokenKind.closeBracket ≠ .finish := nofun
      have hno : token'.kind ≠ .closeBracket →
          step (.bracket t) stack token'.kind = .refuse .closingBracket := by
        intro hclose
        cases hkind' : token'.kind with
        | closeBracket => exact absurd hkind' hclose
        | word | dot | comma | less | greater | openBracket | question | atSign | finish => rfl
      refine (expect_agrees hnext hat' hmark hbracket rfl hno).bind ?_
      rintro _ s' hs' - ⟨hlt, hwhole'⟩
      have hplace : s.place + 1 < s'.place := hlt
      exact ih hs' (by omega) hwhole'
    · intro hkind hlook
      refine .pure hlook (hwhole.trans (follow_congr hat ?_))
      cases hkind' : token.kind with
      | openBracket => exact absurd hkind' hkind
      | word | dot | comma | less | greater | closeBracket | question | atSign | finish => rfl

/-! ### Types -/

/-- Calls for a type agree with the reader wherever this begins a type, whatever is around it, if
they may go as deep as there are tokens up to the first mark of the end. -/
def TypesAgree (tokens : List Token) (least : Nat) : Prop :=
  ∀ whole s stack, s.Within tokens → markPlace tokens < s.place + least →
    whole = follow tokens (step .start stack) s.place →
      Agrees tokens whole least (type tokens) s fun t s' =>
        whole = follow tokens (completed t stack) s'.place

theorem arguments_agrees {n : String} {before : List JavaType} {stack : List Frame}
    (htypes : ∀ k < least, TypesAgree tokens k) (hs : s.Within tokens)
    (hroom : markPlace tokens + 1 < s.place + least)
    (hwhole : whole = follow tokens (step .start (.argument n before.reverse :: stack)) s.place) :
    Agrees tokens whole least (fun depth => arguments tokens depth before) s fun ts s' =>
      whole = follow tokens (step (.suffix (.named n ts)) stack) s'.place := by
  induction least generalizing s before with
  | zero => exact absurd hroom (Nat.not_lt_of_le (Nat.le_succ_of_le hs.place_le))
  | succ least ih =>
    rw [agrees_succ_iff]
    simp only [arguments]
    refine (htypes least (Nat.lt_succ_self _) _ _ _ hs (by omega) hwhole).bind ?_
    intro t s₁ hs₁ hle hwhole₁
    obtain ⟨token, hat⟩ := hs₁.exists_token
    refine ifConsumed_agrees hs₁ hat nofun ?_ ?_
    · intro hkind hnext
      have hroom' : markPlace tokens + 1 < s₁.look.next.place + least := room_next (by omega)
      refine ih (fun k hk => htypes k (Nat.lt_succ_of_lt hk)) hnext hroom' ?_
      rw [List.reverse_append]
      exact hwhole₁.trans (follow_next hs₁ hat hkind nofun rfl)
    · intro hkind hlook
      have hmark : TokenKind.greater ≠ .finish := nofun
      have hclose : completed t (.argument n before.reverse :: stack) .greater =
          .next (.suffix (.named n (before ++ [t]))) stack := by
        rw [completed, complete, List.reverse_reverse]
      have hno : token.kind ≠ .greater →
          completed t (.argument n before.reverse :: stack) token.kind =
            .refuse .endOfArguments := by
        intro hgreater
        cases hkind' : token.kind with
        | comma => exact absurd hkind' hkind
        | greater => exact absurd hkind' hgreater
        | word | dot | less | openBracket | closeBracket | question | atSign | finish => rfl
      refine (expect_agrees hlook hat hmark hwhole₁ hclose hno).bind ?_
      rintro _ s' hs' - ⟨-, hwhole'⟩
      exact .pure hs' hwhole'

/-- Behind the sign of a wildcard the reader goes by the same words. -/
theorem step_wildcard_eq (stack : List Frame) (kind : TokenKind) :
    step .wildcard stack kind =
      match keyword? kind with
      | some b => .next .start (.limit b :: stack)
      | none => completed .wildcard stack kind := by
  fun_cases keyword? kind with
  | case1 => rfl
  | case2 => rfl
  | case3 _ hupper hlower =>
    rcases step_wildcard stack kind with ⟨b, hkind, -⟩ | hstep
    · cases b with
      | upper => exact absurd hkind hupper
      | lower => exact absurd hkind hlower
    · exact hstep

theorem limit_agrees {stack : List Frame} (htypes : ∀ k < least, TypesAgree tokens k)
    (hs : s.Within tokens) (hroom : markPlace tokens < s.place + least)
    (hwhole : whole = follow tokens (step .wildcard stack) s.place) :
    Agrees tokens whole least (limit tokens) s fun t s' =>
      whole = follow tokens (completed t stack) s'.place := by
  cases least with
  | zero => exact absurd hroom (Nat.not_lt_of_le hs.place_le)
  | succ least =>
    obtain ⟨token, hat⟩ := hs.exists_token
    rw [agrees_succ_iff]
    simp only [limit]
    refine current_bind_agrees hat ?_
    have hstep := step_wildcard_eq stack token.kind
    cases hkeyword : keyword? token.kind with
    | none =>
      rw [hkeyword] at hstep
      exact .pure hs.look (hwhole.trans (follow_congr hat hstep))
    | some b =>
      rw [hkeyword] at hstep
      have hfinish : token.kind ≠ .finish := by
        intro hkind
        rw [hkind] at hkeyword
        cases hkeyword
      have hstart : whole = follow tokens (step .start (.limit b :: stack)) s.look.next.place :=
        hwhole.trans (follow_next hs hat rfl hfinish hstep)
      have hnext := hs.next hat hfinish
      refine advance_bind_agrees ?_
      refine (htypes least (Nat.lt_succ_self _) _ _ _ hnext (room_next hroom) hstart).bind ?_
      intro t s' hs' _ hwhole'
      exact .pure hs' hwhole'

/-- The type arguments and the brackets behind a name, which a call for a type reads last. -/
theorem behindName_agrees {n : String} {stack : List Frame}
    (htypes : ∀ k < least, TypesAgree tokens k) (hs : s.Within tokens)
    (hroom : markPlace tokens < s.place + least) (hnamed : Named tokens whole .name stack n s) :
    Agrees tokens whole least (fun depth => do
      if ← consumeIf tokens .less then
        let args ← arguments tokens depth []
        brackets tokens (depth + 1) (.named n args)
      else
        brackets tokens (depth + 1) (.plain n)) s fun t s' =>
          whole = follow tokens (completed t stack) s'.place := by
  obtain ⟨token, hat, hdot, hwhole⟩ := hnamed
  refine ifConsumed_agrees hs hat nofun ?_ ?_
  · intro hkind hnext
    have hstart : whole =
        follow tokens (step .start (.argument n [] :: stack)) s.look.next.place :=
      hwhole.trans (follow_next hs hat hkind nofun rfl)
    have hroom' : markPlace tokens + 1 < s.look.next.place + least := room_next (by omega)
    refine (arguments_agrees htypes hnext hroom' hstart).bind ?_
    intro ts s' hs' hle hwhole'
    exact agrees_succ_iff.1 (brackets_agrees hs' (by omega) hwhole')
  · intro hless hlook
    have hbrackets : whole = follow tokens (step (.suffix (.plain n)) stack) s.look.place := by
      refine hwhole.trans (follow_congr hat ?_)
      cases hkind : token.kind with
      | dot => exact absurd hkind hdot
      | less => exact absurd hkind hless
      | word | comma | greater | openBracket | closeBracket | question | atSign | finish => rfl
    exact agrees_succ_iff.1 (brackets_agrees hlook (Nat.lt_succ_of_lt hroom) hbrackets)

theorem types_agree (least : Nat) : TypesAgree tokens least := by
  induction least using Nat.strongRecOn with
  | _ least ih =>
    intro whole s stack hs hroom hwhole
    cases least with
    | zero => exact absurd hroom (Nat.not_lt_of_le hs.place_le)
    | succ least =>
      have htypes : ∀ k < least, TypesAgree tokens k := fun k hk => ih k (Nat.lt_succ_of_lt hk)
      rw [agrees_succ_iff]
      simp only [type]
      refine (agrees_succ_iff.1 (annotations_agrees hs hroom hwhole)).bind ?_
      rintro _ s₁ hs₁ hle₁ ⟨token, hat, hannotated, hwhole₁⟩
      have hroom₁ : markPlace tokens < s₁.place + (least + 1) := by omega
      refine ifConsumed_agrees hs₁ hat nofun ?_ ?_
      · intro hkind hnext
        exact limit_agrees htypes hnext (room_next hroom₁)
          (hwhole₁.trans (follow_next hs₁ hat hkind nofun rfl))
      · intro hquestion hlook
        have hname : whole = follow tokens (wordStep .typeName .name stack) s₁.look.place := by
          refine hwhole₁.trans (follow_congr hat ?_)
          cases hkind : token.kind with
          | atSign => exact absurd hkind hannotated
          | question => exact absurd hkind hquestion
          | word | dot | comma | less | greater | openBracket | closeBracket | finish => rfl
        refine (agrees_succ_iff.1 (name_agrees (naming_name stack) hlook hroom₁ hname)).bind ?_
        rintro n s₂ hs₂ - ⟨hlt, hnamed⟩
        -- A name has been passed, so one step less is room enough for what is behind it.
        have hplace : s₁.place < s₂.place := hlt
        exact behindName_agrees htypes hs₂ (by omega) hnamed

/-! ### Whole lists of tokens -/

theorem read_agrees (hs : s.Within tokens) (hroom : markPlace tokens < s.place + least)
    (hwhole : whole = follow tokens (step .start []) s.place) :
    Agrees tokens whole least (read tokens) s fun t _ => whole = .ok t := by
  refine (types_agree least whole s [] hs hroom hwhole).bind ?_
  intro t s' hs' _ hwhole'
  obtain ⟨token, hat⟩ := hs'.exists_token
  refine current_bind_agrees hat ?_
  by_cases hkind : token.kind = .finish
  · simp only [if_pos hkind]
    exact .pure hs'.look (hwhole'.trans (follow_accept hat (by rw [hkind]; rfl)))
  · simp only [if_neg hkind]
    refine refuse_agrees hs'.look hat (hwhole'.trans (follow_refuse hat ?_))
    cases hkind' : token.kind with
    | finish => exact absurd hkind' hkind
    | word | dot | comma | less | greater | openBracket | closeBracket | question | atSign => rfl

end

/-- **The descent stays within its tokens and ends.** On tokens of which the last is the mark of the
end, such as those of any text, no call goes deeper than there are tokens, whether the tokens are a
type or not: with any depth from there on the descent ends in the same way. No call looks beyond the
first mark of the end, nor moves beyond it, and all tokens before the last place have been looked at.
What comes of it is what the reader makes of the tokens: the type, or the fault. -/
theorem read_within_tokens :
    (∀ tokens, Marked tokens →
      markPlace tokens < tokens.length ∧
      ∃ cursor,
        (∀ depth, tokens.length ≤ depth →
          read tokens depth .first = some ((ofTokens tokens).mapError .fault, cursor)) ∧
        cursor.place ≤ markPlace tokens ∧ (∀ i ∈ cursor.looked, i ≤ markPlace tokens) ∧
        ∀ i < cursor.place, i ∈ cursor.looked) ∧
      ∀ text tokens, Token.ofText text = .ok tokens → Marked tokens := by
  refine ⟨fun tokens h => ⟨h.markPlace_lt, ?_⟩, fun text tokens => marked_of_ofText⟩
  have hlooked : ∀ {cursor : Cursor}, cursor.Within tokens →
      ∀ i ∈ cursor.looked, i ≤ markPlace tokens :=
    fun hwithin i hi => Nat.le_trans (hwithin.looked_le i hi) hwithin.place_le
  have hroom : markPlace tokens < Cursor.first.place + tokens.length := by
    rw [Cursor.first, Nat.zero_add]
    exact h.markPlace_lt
  have hread := read_agrees (.first h) hroom (ofTokens_eq_follow h)
  cases hread with
  | result hx hwithin _ hwhole =>
    rw [hwhole]
    exact ⟨_, hx, hwithin.place_le, hlooked hwithin, hwithin.mem_looked⟩
  | fault hx hwithin hwhole =>
    rw [hwhole]
    exact ⟨_, hx, hwithin.place_le, hlooked hwithin, hwithin.mem_looked⟩

/-- The tokens behind a mark of the end are not looked at, even if the type is not complete there. -/
theorem read_within_tokens_twice_marked :
    let tokens : List Token :=
      [⟨.word "A", 0⟩, ⟨.less, 1⟩, ⟨.finish, 2⟩, ⟨.greater, 2⟩, ⟨.finish, 3⟩]
    Marked tokens ∧
      ∃ cursor, read tokens 5 .first = some (.error (.fault (.unfit .typeName 2)), cursor) ∧
        cursor.place ≤ 2 ∧ ∀ i ∈ cursor.looked, i ≤ 2 := by
  intro tokens
  have hmarked : Marked tokens := ⟨⟨.finish, 3⟩, rfl, rfl⟩
  have hmark : markPlace tokens = 2 := by decide
  have hfault : ofTokens tokens = .error (.unfit .typeName 2) := rfl
  obtain ⟨-, cursor, hread, hplace, hlooked, -⟩ := read_within_tokens.1 tokens hmarked
  specialize hread 5 (Nat.le_refl _)
  rw [hfault] at hread
  rw [hmark] at hplace hlooked
  exact ⟨hmarked, cursor, hread, hplace, hlooked⟩

end Descent

end JavaType

end BuilderPlanner
