import BuilderPlanner.Failure
import BuilderPlanner.Proofs.JavaType.Spelling
import BuilderPlanner.Proofs.Unicode.Letters

/-!
# Nothing of a text is lost between its tokens

The tokens of a text, each with the blanks before it, are the whole text. A text without tokens has a
character that belongs to none, and the first of these is the one that is named.

* `Piece`, `LaidOut` — a token with the blanks before it, and the texts that consist of such pieces;
* `Token.exists_laidOut_of_scan` — the scanner lays out the text;
* `Lossless` — what this says of the tokens and their places;
* `StrayAt`, `FirstStrayAt` — the characters that belong to no token;
* `message_of_firstStrayAt` — what is reported of a text that should be a type;
* `Token.ofText_lossless` — the tokens of a text lose nothing, and a text has none if and only if a
  character is stray.
-/

namespace BuilderPlanner

/-! ### Characters outside words -/

theorem continuesWord_of_beginsWord {c : Char} (h : beginsWord c = true) :
    continuesWord c = true := by
  rw [continuesWord, h, Bool.true_or]

/-- No blank is part of a word. -/
theorem continuesWord_of_isBlank {c : Char} (h : Unicode.isBlank c = true) :
    continuesWord c = false := by
  have hblanks : (Unicode.blanks.all fun s => s.codes.all fun code =>
      !continuesWord (Char.ofNat code)) = true := by decide +kernel
  have hcode := Unicode.Span.of_anyCovers Unicode.ascending_blanks hblanks h
  rwa [Char.ofNat_toNat, Bool.not_eq_true'] at hcode

theorem spelling_of_ofMark? {c : Char} {kind : TokenKind} (h : TokenKind.ofMark? c = some kind) :
    kind.spelling.toList = [c] := by
  unfold TokenKind.ofMark? at h
  split at h
  case h_9 => cases h
  all_goals
    cases h
    rfl

theorem byteCount_pos {cs : List Char} (h : cs ≠ []) : 0 < byteCount cs := by
  cases cs with
  | nil => exact absurd rfl h
  | cons c cs =>
    have hc := c.utf8Size_pos
    rw [byteCount_cons]
    omega

/-! ### Tokens with the blanks before them -/

/-- A token with the blanks before it. -/
structure Piece where
  gap : List Char
  token : Token

/-- The part of a text that a piece takes up. -/
def Piece.chars (p : Piece) : List Char := p.gap ++ p.token.kind.spelling.toList

/-- What a token in front of the rest of a text may be. A word is as long as possible, so the text
does not go on with a word right behind it. -/
inductive StandsBefore (rest : List Char) : TokenKind → Prop
  | mark {c : Char} {kind : TokenKind} (h : TokenKind.ofMark? c = some kind) :
      StandsBefore rest kind
  | word {w : String} (hw : IsWord w) (hend : EndsWord rest) : StandsBefore rest (.word w)

/-- The texts from a place on that consist of pieces. -/
inductive LaidOut : ℕ → List Char → List Piece → Prop
  | finish {offset : ℕ} {gap : List Char} (hgap : ∀ c ∈ gap, Unicode.isBlank c = true) :
      LaidOut offset gap [⟨gap, ⟨.finish, offset + byteCount gap⟩⟩]
  | token {offset : ℕ} {gap rest : List Char} {kind : TokenKind} {pieces : List Piece}
      (hgap : ∀ c ∈ gap, Unicode.isBlank c = true) (hkind : StandsBefore rest kind)
      (h : LaidOut (offset + byteCount (gap ++ kind.spelling.toList)) rest pieces) :
      LaidOut offset (gap ++ kind.spelling.toList ++ rest)
        (⟨gap, ⟨kind, offset + byteCount gap⟩⟩ :: pieces)

theorem StandsBefore.spelling_ne_nil {rest : List Char} {kind : TokenKind}
    (h : StandsBefore rest kind) : kind.spelling.toList ≠ [] := by
  cases h with
  | mark h =>
    rw [spelling_of_ofMark? h]
    exact List.cons_ne_nil _ _
  | word hw hend =>
    obtain ⟨c, cs, hcs, -⟩ := hw
    rw [TokenKind.spelling, hcs]
    exact List.cons_ne_nil c cs

theorem StandsBefore.ne_finish {rest : List Char} {kind : TokenKind} (h : StandsBefore rest kind) :
    kind ≠ .finish := by
  rintro rfl
  exact h.spelling_ne_nil rfl

theorem StandsBefore.isWord {rest : List Char} {w : String} (h : StandsBefore rest (.word w)) :
    IsWord w ∧ EndsWord rest := by
  cases h with
  | mark h => exact absurd h (TokenKind.ofMark?_ne_word _ w)
  | word hw hend => exact ⟨hw, hend⟩

namespace LaidOut

variable {offset : ℕ} {cs : List Char} {pieces : List Piece}

theorem gapless {kind : TokenKind} (hkind : StandsBefore cs kind)
    (h : LaidOut (offset + byteCount kind.spelling.toList) cs pieces) :
    LaidOut offset (kind.spelling.toList ++ cs) (⟨[], ⟨kind, offset⟩⟩ :: pieces) :=
  .token (List.forall_mem_nil _) hkind h

/-- A blank in front goes to the first piece. -/
theorem blank {c : Char} (hc : Unicode.isBlank c = true)
    (h : LaidOut (offset + c.utf8Size) cs pieces) :
    ∃ pieces', LaidOut offset (c :: cs) pieces' ∧
      pieces'.map Piece.token = pieces.map Piece.token := by
  cases h with
  | finish hgap =>
    refine ⟨_, .finish (List.forall_mem_cons.2 ⟨hc, hgap⟩), ?_⟩
    simp only [List.map_cons, List.map_nil, byteCount_cons, Nat.add_assoc]
  | token hgap hkind h =>
    rw [Nat.add_assoc, ← byteCount_cons, ← List.cons_append] at h
    refine ⟨_, .token (List.forall_mem_cons.2 ⟨hc, hgap⟩) hkind h, ?_⟩
    simp only [List.map_cons, byteCount_cons, Nat.add_assoc]

theorem isBlank (h : LaidOut offset cs pieces) :
    ∀ p ∈ pieces, ∀ c ∈ p.gap, Unicode.isBlank c = true := by
  induction h with
  | finish hgap => exact List.forall_mem_singleton.2 hgap
  | token hgap _ _ ih => exact List.forall_mem_cons.2 ⟨hgap, ih⟩

/-- The pieces are the whole text. -/
theorem flatMap_chars (h : LaidOut offset cs pieces) : pieces.flatMap Piece.chars = cs := by
  induction h with
  | finish _ => simp [Piece.chars, TokenKind.spelling]
  | token _ _ _ ih => rw [List.flatMap_cons, ih, Piece.chars]

/-- A token stands behind the pieces before it and its own blanks. -/
theorem offset_eq (h : LaidOut offset cs pieces) {before after : List Piece} {p : Piece}
    (hp : pieces = before ++ p :: after) :
    p.token.offset = offset + byteCount (before.flatMap Piece.chars ++ p.gap) := by
  induction h generalizing before with
  | finish _ =>
    obtain ⟨rfl, h⟩ := List.singleton_eq_append_iff.1 hp |>.resolve_right (by simp)
    cases h
    rfl
  | @token offset gap rest kind pieces _ _ _ ih =>
    cases before with
    | nil =>
      cases hp
      rfl
    | cons q before =>
      obtain ⟨rfl, htail⟩ := List.cons.inj hp
      rw [ih htail, List.flatMap_cons, Piece.chars]
      simp only [byteCount_append, Nat.add_assoc]

/-- A word is as long as possible. -/
theorem isWord (h : LaidOut offset cs pieces) {before after : List Piece} {p : Piece} {w : String}
    (hp : pieces = before ++ p :: after) (hw : p.token.kind = .word w) :
    IsWord w ∧ EndsWord (after.flatMap Piece.chars) := by
  induction h generalizing before with
  | finish _ =>
    obtain ⟨rfl, h⟩ := List.singleton_eq_append_iff.1 hp |>.resolve_right (by simp)
    cases h
    cases hw
  | @token offset gap rest kind pieces _ hkind h ih =>
    cases before with
    | nil =>
      cases hp
      obtain rfl : kind = .word w := hw
      rw [h.flatMap_chars]
      exact hkind.isWord
    | cons q before => exact ih (List.cons.inj hp).2

/-- The mark of the end stands last, behind the whole text. -/
theorem exists_finish (h : LaidOut offset cs pieces) :
    ∃ init, pieces.map Piece.token = init ++ [⟨.finish, offset + byteCount cs⟩] ∧
      ∀ t ∈ init, t.kind ≠ .finish := by
  induction h with
  | finish _ => exact ⟨[], rfl, nofun⟩
  | @token offset gap rest kind pieces _ hkind _ ih =>
    obtain ⟨init, heq, hinit⟩ := ih
    refine ⟨⟨kind, offset + byteCount gap⟩ :: init, ?_,
      List.forall_mem_cons.2 ⟨hkind.ne_finish, hinit⟩⟩
    rw [List.map_cons, heq, List.cons_append, Nat.add_assoc, ← byteCount_append]

theorem le_offset (h : LaidOut offset cs pieces) :
    ∀ p ∈ pieces, offset ≤ p.token.offset := by
  induction h with
  | finish _ => exact List.forall_mem_singleton.2 (Nat.le_add_right _ _)
  | token _ _ _ ih =>
    refine List.forall_mem_cons.2 ⟨Nat.le_add_right _ _, fun p hp => ?_⟩
    exact Nat.le_trans (Nat.le_add_right _ _) (ih p hp)

/-- Tokens stand one after the other. No spelling is empty but that of the mark of the end. -/
theorem pairwise_offset (h : LaidOut offset cs pieces) :
    pieces.Pairwise fun p q => p.token.offset < q.token.offset := by
  induction h with
  | finish _ => exact List.pairwise_singleton _ _
  | @token offset gap rest kind pieces _ hkind h ih =>
    refine List.pairwise_cons.2 ⟨fun q hq => ?_, ih⟩
    have hle := h.le_offset q hq
    have hpos := byteCount_pos hkind.spelling_ne_nil
    rw [byteCount_append] at hle
    show offset + byteCount gap < q.token.offset
    omega

end LaidOut

/-- The scanner lays out the text: one case for each way to begin. -/
theorem Token.exists_laidOut_of_scan {offset : ℕ} {cs : List Char} {tokens : List Token}
    (h : scan offset cs = .ok tokens) :
    ∃ pieces, LaidOut offset cs pieces ∧ pieces.map Piece.token = tokens := by
  induction offset, cs using scan.induct generalizing tokens with
  | case1 offset =>
    rw [scan] at h
    cases h
    exact ⟨_, .finish (List.forall_mem_nil _), rfl⟩
  | case2 offset c rest hblank ih =>
    rw [scan, if_pos hblank] at h
    obtain ⟨pieces, hpieces, htokens⟩ := ih h
    obtain ⟨pieces', hpieces', heq⟩ := hpieces.blank hblank
    exact ⟨pieces', hpieces', heq.trans htokens⟩
  | case3 offset c rest hblank kind hkind ih =>
    rw [scan, if_neg hblank] at h
    simp only [hkind] at h
    obtain ⟨tokens, hrest, rfl⟩ := map_eq_ok_iff.1 h
    obtain ⟨pieces, hpieces, rfl⟩ := ih hrest
    have hspelling := spelling_of_ofMark? hkind
    have hlaid := LaidOut.gapless (.mark hkind) (by rwa [hspelling, byteCount_singleton])
    rw [hspelling] at hlaid
    exact ⟨_, hlaid, rfl⟩
  | case4 offset c rest hblank hbegins word hmark =>
    rename_i ih
    rw [scan, if_neg hblank] at h
    simp only [hbegins, if_true] at h
    obtain ⟨tokens, hrest, rfl⟩ := map_eq_ok_iff.1 h
    obtain ⟨pieces, hpieces, rfl⟩ := ih hrest
    have hword := isWord_cons_wordSplit hblank hmark hbegins rest
    have hspelling : (TokenKind.word (String.ofList word)).spelling.toList = word :=
      String.toList_ofList
    rw [← hspelling] at hpieces
    have hlaid := LaidOut.gapless (.word hword (endsWord_wordSplit rest)) hpieces
    rw [hspelling, List.cons_append, wordSplit_fst_append_snd] at hlaid
    exact ⟨_, hlaid, rfl⟩
  | case5 offset c rest hblank hbegins hmark =>
    rw [scan, if_neg hblank] at h
    simp only [hbegins] at h
    cases h

/-! ### Stray characters -/

/-- A character belongs to a word that begins before it. -/
def WithinWord (before : List Char) (c : Char) : Prop :=
  continuesWord c = true ∧ ∃ pre s mid, before = pre ++ s :: mid ∧ beginsWord s = true ∧
    ∀ d ∈ mid, continuesWord d = true

/-- A character of a text belongs to no token: it is neither a blank nor a mark, and it neither
begins a word nor is within one. -/
structure StrayAt (cs before : List Char) (c : Char) : Prop where
  place : ∃ after, cs = before ++ c :: after
  not_blank : Unicode.isBlank c = false
  not_mark : TokenKind.ofMark? c = none
  not_begins : beginsWord c = false
  not_within : ¬WithinWord before c

/-- No stray character of a text stands before this one. -/
structure FirstStrayAt (cs before : List Char) (c : Char) : Prop extends StrayAt cs before c where
  first : ∀ before' c', StrayAt cs before' c' → before.length ≤ before'.length

/-- The stray characters of a text are those of its rest. -/
def StraysBehind (read rest : List Char) : Prop :=
  ∀ before c, StrayAt (read ++ rest) before c ↔ ∃ before', before = read ++ before' ∧
    StrayAt rest before' c

section

variable {b c : Char} {read rest before : List Char}

/-- A character has no part in later words if it begins none, or if one behind it is in none. -/
theorem withinWord_cons_iff
    (h : beginsWord b = false ∨ ∃ d ∈ before ++ [c], continuesWord d = false) :
    WithinWord (b :: before) c ↔ WithinWord before c := by
  constructor
  · intro hwithin
    obtain ⟨hc, pre, s, mid, heq, hs, hmid⟩ := hwithin
    cases pre with
    | nil =>
      obtain ⟨rfl, rfl⟩ := List.cons.inj heq
      rcases h with hb | ⟨d, hd, hno⟩
      · exact absurd hs (by simp [hb])
      · rcases List.mem_append.1 hd with hd | hd
        · exact absurd (hmid d hd) (by simp [hno])
        · obtain rfl := List.mem_singleton.1 hd
          exact absurd hc (by simp [hno])
    | cons a pre => exact ⟨hc, pre, s, mid, (List.cons.inj heq).2, hs, hmid⟩
  · intro hwithin
    obtain ⟨hc, pre, s, mid, rfl, hs, hmid⟩ := hwithin
    exact ⟨hc, b :: pre, s, mid, rfl, hs, hmid⟩

theorem withinWord_append_iff (h : ∃ d ∈ before ++ [c], continuesWord d = false) :
    WithinWord (read ++ before) c ↔ WithinWord before c := by
  induction read with
  | nil => rfl
  | cons a read ih =>
    obtain ⟨d, hd, hno⟩ := h
    rw [List.cons_append, withinWord_cons_iff (.inr ⟨d, ?_, hno⟩), ih]
    rw [List.append_assoc]
    exact List.mem_append_right read hd

theorem straysBehind_of_isBlank_or_mark
    (hb : Unicode.isBlank b = true ∨ ∃ kind, TokenKind.ofMark? b = some kind) :
    StraysBehind [b] rest := by
  have hbegins : beginsWord b = false := by
    have hno : continuesWord b = false := hb.elim continuesWord_of_isBlank fun ⟨_, h⟩ =>
      (TokenKind.outside_of_ofMark? h).2
    by_contra h
    rw [continuesWord_of_beginsWord (Bool.not_eq_false _ ▸ h)] at hno
    cases hno
  intro before c
  constructor
  · intro h
    obtain ⟨after, heq⟩ := h.place
    cases before with
    | nil =>
      obtain ⟨rfl, -⟩ := List.cons.inj heq
      rcases hb with hb | ⟨kind, hb⟩
      · exact absurd hb (by simp [h.not_blank])
      · exact absurd hb (by simp [h.not_mark])
    | cons a before =>
      obtain ⟨rfl, hrest⟩ := List.cons.inj heq
      exact ⟨before, rfl, ⟨after, hrest⟩, h.not_blank, h.not_mark, h.not_begins,
        fun hw => h.not_within ((withinWord_cons_iff (.inl hbegins)).2 hw)⟩
  · intro h
    obtain ⟨before, rfl, h⟩ := h
    obtain ⟨after, rfl⟩ := h.place
    exact ⟨⟨after, rfl⟩, h.not_blank, h.not_mark, h.not_begins,
      fun hw => h.not_within ((withinWord_cons_iff (.inl hbegins)).1 hw)⟩

/-- What does not go on with a word has a character that is in none, before any other place. -/
theorem EndsWord.exists_mem {after : List Char} (h : EndsWord (before ++ c :: after)) :
    ∃ d ∈ before ++ [c], continuesWord d = false := by
  cases before with
  | nil => exact ⟨c, by simp, h c rfl⟩
  | cons a before => exact ⟨a, by simp, h a rfl⟩

/-- No character of a word is stray. -/
theorem IsWord.not_strayAt {w : String} (hw : IsWord w) {mid : List Char}
    (heq : w.toList = before ++ c :: mid) {cs : List Char} : ¬StrayAt cs before c := by
  intro h
  obtain ⟨a, as, has, -, -, hbegins, hcontinues⟩ := hw
  rw [has] at heq
  cases before with
  | nil =>
    obtain ⟨rfl, -⟩ := List.cons.inj heq
    exact absurd hbegins (by simp [h.not_begins])
  | cons b before =>
    obtain ⟨rfl, rfl⟩ := List.cons.inj heq
    exact h.not_within ⟨hcontinues c (by simp), [], a, before, rfl, hbegins,
      fun d hd => hcontinues d (by simp [hd])⟩

theorem straysBehind_of_isWord {w : String} (hw : IsWord w) (hend : EndsWord rest) :
    StraysBehind w.toList rest := by
  intro before c
  constructor
  · intro h
    obtain ⟨after, heq⟩ := h.place
    have hbehind : ∀ before', before = w.toList ++ before' → rest = before' ++ c :: after →
        ∃ before', before = w.toList ++ before' ∧ StrayAt rest before' c := by
      rintro before' rfl rfl
      exact ⟨before', rfl, ⟨after, rfl⟩, h.not_blank, h.not_mark, h.not_begins,
        fun hwithin => h.not_within ((withinWord_append_iff hend.exists_mem).2 hwithin)⟩
    rcases List.append_eq_append_iff.1 heq with ⟨before', hbefore, hrest⟩ | ⟨mid, hmid, hafter⟩
    · exact hbehind before' hbefore hrest
    · cases mid with
      | nil => exact hbehind [] (by simpa using hmid.symm) hafter.symm
      | cons d mid =>
        obtain ⟨rfl, -⟩ := List.cons.inj hafter
        exact absurd h (hw.not_strayAt hmid)
  · intro h
    obtain ⟨before, rfl, h⟩ := h
    obtain ⟨after, rfl⟩ := h.place
    exact ⟨⟨after, by simp⟩, h.not_blank, h.not_mark, h.not_begins,
      fun hwithin => h.not_within ((withinWord_append_iff hend.exists_mem).1 hwithin)⟩

end

/-- What the scanner finds in a text that begins at a place: tokens if no character is stray, and
otherwise the first that is. -/
inductive Judged (offset : ℕ) (cs : List Char) : Except StrayChar (List Token) → Prop
  | ok (tokens : List Token) (h : ∀ before c, ¬StrayAt cs before c) : Judged offset cs (.ok tokens)
  | error {before : List Char} {c : Char} (h : FirstStrayAt cs before c) :
      Judged offset cs (.error ⟨c, offset + byteCount before⟩)

theorem Judged.behind {offset : ℕ} {read rest : List Char} (hbehind : StraysBehind read rest)
    (f : List Token → List Token) {r : Except StrayChar (List Token)}
    (h : Judged (offset + byteCount read) rest r) : Judged offset (read ++ rest) (f <$> r) := by
  cases h with
  | ok tokens h =>
    refine .ok (f tokens) fun before c hc => ?_
    obtain ⟨before', -, hc⟩ := (hbehind before c).1 hc
    exact h before' c hc
  | @error before c h =>
    have hfirst : FirstStrayAt (read ++ rest) (read ++ before) c := by
      refine ⟨(hbehind _ c).2 ⟨before, rfl, h.toStrayAt⟩, fun before' c' h' => ?_⟩
      obtain ⟨before'', rfl, hrest⟩ := (hbehind before' c').1 h'
      have hle := h.first before'' c' hrest
      simp only [List.length_append]
      omega
    rw [Nat.add_assoc, ← byteCount_append]
    exact .error hfirst

/-- One case for each way to begin. -/
theorem Token.judged_scan (offset : ℕ) (cs : List Char) : Judged offset cs (scan offset cs) := by
  induction offset, cs using scan.induct with
  | case1 offset =>
    rw [scan]
    refine .ok _ fun before c h => ?_
    obtain ⟨after, heq⟩ := h.place
    exact absurd heq (by simp)
  | case2 offset c rest hblank ih =>
    rw [scan, if_pos hblank, ← id_map (scan _ rest)]
    have hbehind : StraysBehind [c] rest := straysBehind_of_isBlank_or_mark (.inl hblank)
    exact Judged.behind hbehind id (by rwa [byteCount_singleton])
  | case3 offset c rest hblank kind hkind ih =>
    rw [scan, if_neg hblank]
    simp only [hkind]
    have hbehind : StraysBehind [c] rest := straysBehind_of_isBlank_or_mark (.inr ⟨kind, hkind⟩)
    exact Judged.behind hbehind _ (by rwa [byteCount_singleton])
  | case4 offset c rest hblank hbegins word hmark =>
    rename_i ih
    rw [scan, if_neg hblank]
    simp only [hbegins, if_true]
    have hword := isWord_cons_wordSplit hblank hmark hbegins rest
    have hbehind := straysBehind_of_isWord hword (endsWord_wordSplit rest)
    rw [String.toList_ofList] at hbehind
    have hjudged := Judged.behind hbehind (⟨.word (String.ofList word), offset⟩ :: ·) ih
    rwa [List.cons_append, wordSplit_fst_append_snd] at hjudged
  | case5 offset c rest hblank hbegins hmark =>
    have hnone : TokenKind.ofMark? c = none := Option.eq_none_iff_forall_ne_some.2 hmark
    have hfirst : FirstStrayAt (c :: rest) [] c := {
      place := ⟨rest, rfl⟩
      not_blank := by simpa using hblank
      not_mark := hnone
      not_begins := by simpa using hbegins
      not_within := by
        rintro ⟨-, pre, s, mid, heq, -⟩
        exact absurd heq (by simp)
      first := fun _ _ _ => Nat.zero_le _ }
    rw [scan, if_neg hblank]
    simp only [hnone, hbegins]
    exact .error hfirst

theorem FirstStrayAt.unique {cs before before' : List Char} {c c' : Char}
    (h : FirstStrayAt cs before c) (h' : FirstStrayAt cs before' c') :
    before = before' ∧ c = c' := by
  have hlength := Nat.le_antisymm (h.first before' c' h'.toStrayAt) (h'.first before c h.toStrayAt)
  obtain ⟨after, rfl⟩ := h.place
  obtain ⟨after', hplace⟩ := h'.place
  obtain ⟨hbefore, hafter⟩ := List.append_inj hplace hlength
  exact ⟨hbefore, (List.cons.inj hafter).1⟩

theorem Token.ofText_of_firstStrayAt {text : String} {before : List Char} {c : Char}
    (h : FirstStrayAt text.toList before c) : ofText text = .error ⟨c, byteCount before⟩ := by
  have hjudged := judged_scan 0 text.toList
  cases hscan : scan 0 text.toList with
  | ok tokens =>
    rw [hscan] at hjudged
    cases hjudged with
    | ok _ hno => exact absurd h.toStrayAt (hno before c)
  | error s =>
    rw [hscan] at hjudged
    cases hjudged with
    | error h' =>
      obtain ⟨rfl, rfl⟩ := h.unique h'
      rw [Nat.zero_add] at hscan
      exact hscan

/-- The message on a text with stray characters names the first of them and its place in bytes. -/
theorem message_of_firstStrayAt (scope : List String) {text : String} {before : List Char}
    {c : Char} (h : FirstStrayAt text.toList before c) :
    ∃ f, readTypeIn scope text = .error f ∧
      f.message = "type syntax error: " ++ ("unexpected character '" ++ c.toString ++ "' at " ++
        toString (byteCount before) ++ " in '" ++ text ++ "'") := by
  refine ⟨.typeText text (.stray ⟨c, byteCount before⟩), ?_, rfl⟩
  rw [readTypeIn, JavaType.ofTextIn, JavaType.ofText, Token.ofText_of_firstStrayAt h]
  rfl

/-! ### Texts and their tokens -/

/-- How the tokens of a text, with the blanks before them, make up this text. -/
structure Lossless (text : String) (tokens : List Token) (pieces : List Piece) : Prop where
  each : pieces.map Piece.token = tokens
  blank : ∀ p ∈ pieces, ∀ c ∈ p.gap, Unicode.isBlank c = true
  whole : pieces.flatMap Piece.chars = text.toList
  /-- A token stands behind the pieces before it and its own blanks. -/
  place : ∀ before p after, pieces = before ++ p :: after →
    p.token.offset = byteCount (before.flatMap Piece.chars ++ p.gap)
  increasing : tokens.Pairwise fun s t => s.offset < t.offset
  /-- Words are as long as possible. -/
  longest : ∀ before p after w, pieces = before ++ p :: after → p.token.kind = .word w →
    IsWord w ∧ EndsWord (after.flatMap Piece.chars)
  /-- There are blanks between words. -/
  apart : ∀ before p q after v w, pieces = before ++ p :: q :: after → p.token.kind = .word v →
    q.token.kind = .word w → q.gap ≠ []
  /-- The mark of the end stands last, behind all bytes, and nowhere else. -/
  finish : ∃ init, tokens = init ++ [⟨.finish, text.utf8ByteSize⟩] ∧ ∀ t ∈ init, t.kind ≠ .finish

theorem byteCount_toList (text : String) : byteCount text.toList = text.utf8ByteSize := by
  have hlist : ∀ cs : List Char, byteCount cs = (String.ofList cs).utf8ByteSize := by
    intro cs
    induction cs with
    | nil => rfl
    | cons c cs ih =>
      rw [byteCount_cons, ih, ← String.utf8ByteSize_singleton, ← String.utf8ByteSize_append,
        ← String.ofList_cons]
  rw [hlist, String.ofList_toList]

theorem LaidOut.lossless {text : String} {pieces : List Piece}
    (h : LaidOut 0 text.toList pieces) : Lossless text (pieces.map Piece.token) pieces where
  each := rfl
  blank := h.isBlank
  whole := h.flatMap_chars
  place before p after hp := by rw [h.offset_eq hp, Nat.zero_add]
  increasing := List.pairwise_map.2 h.pairwise_offset
  longest before p after w hp hw := h.isWord hp hw
  apart before p q after v w hp hv hw := by
    intro hgap
    have hend := (h.isWord hp hv).2
    have hq : pieces = (before ++ [p]) ++ q :: after := by simp [hp]
    obtain ⟨⟨c, cs, hcs, -, -, hbegins, -⟩, -⟩ := h.isWord hq hw
    -- without blanks the second word goes on with the first
    have hno := hend c (by simp [Piece.chars, hgap, hw, TokenKind.spelling, hcs])
    rw [continuesWord_of_beginsWord hbegins] at hno
    cases hno
  finish := by
    obtain ⟨init, heq, hinit⟩ := h.exists_finish
    rw [Nat.zero_add, byteCount_toList] at heq
    exact ⟨init, heq, hinit⟩

/-- **The tokens of a text lose nothing.** They make up the text, with only blanks between them. A
text has no tokens if and only if a character of it is stray, and then the first such character is
named, with its place. -/
theorem Token.ofText_lossless (text : String) :
    (∀ tokens, ofText text = .ok tokens → ∃ pieces, Lossless text tokens pieces) ∧
      ((∃ s, ofText text = .error s) ↔ ∃ before c, StrayAt text.toList before c) ∧
      ∀ s, ofText text = .error s →
        ∃ before, FirstStrayAt text.toList before s.char ∧ s.offset = byteCount before := by
  have hjudged := judged_scan 0 text.toList
  have herror : ∀ s, ofText text = .error s →
      ∃ before, FirstStrayAt text.toList before s.char ∧ s.offset = byteCount before := by
    intro s hs
    rw [show scan 0 text.toList = .error s from hs] at hjudged
    cases hjudged with
    | @error before c h => exact ⟨before, h, Nat.zero_add _⟩
  refine ⟨?_, ?_, herror⟩
  · intro tokens htokens
    obtain ⟨pieces, hpieces, rfl⟩ := exists_laidOut_of_scan htokens
    exact ⟨pieces, hpieces.lossless⟩
  · constructor
    · intro h
      obtain ⟨s, hs⟩ := h
      obtain ⟨before, h, -⟩ := herror s hs
      exact ⟨before, s.char, h.toStrayAt⟩
    · intro h
      obtain ⟨before, c, h⟩ := h
      cases htokens : ofText text with
      | error s => exact ⟨s, rfl⟩
      | ok tokens =>
        rw [show scan 0 text.toList = .ok tokens from htokens] at hjudged
        cases hjudged with
        | ok _ hno => exact absurd h (hno before c)

/-- Places are counted in bytes, and a digit is stray where it follows no word. -/
theorem Token.ofText_lossless_accented :
    (∃ pieces, Lossless " é1<T" [⟨.word "é1", 1⟩, ⟨.less, 4⟩, ⟨.word "T", 5⟩, ⟨.finish, 6⟩] pieces) ∧
      ∃ before, FirstStrayAt "é1 2".toList before '2' ∧ 4 = byteCount before :=
  ⟨(ofText_lossless " é1<T").1 _ (by decide +kernel),
    (ofText_lossless "é1 2").2.2 ⟨'2', 4⟩ (by decide +kernel)⟩

end BuilderPlanner
