import BuilderPlanner.JavaType.Token
import BuilderPlanner.Proofs.Success

/-!
# How tokens are spelled

Which tokens a text is cut into, whatever the places are where they begin.

* `IsWord` — the texts that are one word;
* `TokenKind.outside_of_ofMark?`, `outside_space` — marks and spaces are no parts of words;
* `Spells` — the texts that are cut into a list of tokens;
* `Token.spells_of_scan`, `Spells.exists_scan` — the scanner finds the tokens that a text spells, and
  no others;
* `Spells.isWord` — what is taken for a word is one.
-/

namespace BuilderPlanner

/-! ### Words in a text -/

/-- A text that is one word. Its first character is neither a blank nor a mark. -/
def IsWord (w : String) : Prop :=
  ∃ c rest, w.toList = c :: rest ∧ Unicode.isBlank c = false ∧ TokenKind.ofMark? c = none ∧
    beginsWord c = true ∧ ∀ d ∈ rest, continuesWord d = true

/-- A text that does not go on with a word in front of it. -/
def EndsWord (rest : List Char) : Prop := ∀ c ∈ rest.head?, continuesWord c = false

theorem endsWord_nil : EndsWord [] := by
  intro c hc
  cases hc

theorem endsWord_cons {c : Char} {rest : List Char} (h : continuesWord c = false) :
    EndsWord (c :: rest) := by
  intro d hd
  obtain rfl := Option.some.inj hd
  exact h

/-- A word is as long as possible, so it ends where a character does not continue it. -/
theorem wordSplit_append {word rest : List Char} (hword : ∀ d ∈ word, continuesWord d = true)
    (hend : EndsWord rest) : wordSplit (word ++ rest) = (word, rest) := by
  have htake : rest.takeWhile continuesWord = [] := by
    cases rest with
    | nil => rfl
    | cons c rest => rw [List.takeWhile_cons_of_neg (by simp [hend c rfl])]
  have hdrop : rest.dropWhile continuesWord = rest := by
    cases rest with
    | nil => rfl
    | cons c rest => rw [List.dropWhile_cons_of_neg (by simp [hend c rfl])]
  rw [wordSplit, List.takeWhile_append_of_pos hword, List.dropWhile_append_of_pos hword, htake,
    hdrop, List.append_nil]

theorem endsWord_wordSplit (cs : List Char) : EndsWord (wordSplit cs).2 := by
  intro c hc
  have hhead := List.head?_dropWhile_not continuesWord cs
  rw [show (List.dropWhile continuesWord cs).head? = some c from hc] at hhead
  exact hhead

/-- What the scanner takes for a word is one. -/
theorem isWord_cons_wordSplit {c : Char} (hblank : ¬Unicode.isBlank c = true)
    (hmark : ∀ kind, TokenKind.ofMark? c = some kind → False) (hbegins : beginsWord c = true)
    (rest : List Char) : IsWord (String.ofList (c :: (wordSplit rest).1)) :=
  ⟨c, (wordSplit rest).1, String.toList_ofList, by simpa using hblank,
    Option.eq_none_iff_forall_ne_some.2 hmark, hbegins, List.all_eq_true.1 List.all_takeWhile⟩

theorem wordSplit_fst_append_snd (cs : List Char) : (wordSplit cs).1 ++ (wordSplit cs).2 = cs :=
  List.takeWhile_append_dropWhile

/-! ### Tokens of a text -/

theorem TokenKind.ofMark?_ne_word (c : Char) (w : String) :
    TokenKind.ofMark? c ≠ some (.word w) := by
  unfold TokenKind.ofMark?
  split <;> nofun

/-- No mark is a blank, and none is part of a word. -/
theorem TokenKind.outside_of_ofMark? {c : Char} {kind : TokenKind}
    (h : TokenKind.ofMark? c = some kind) :
    Unicode.isBlank c = false ∧ continuesWord c = false := by
  unfold TokenKind.ofMark? at h
  split at h
  case h_9 => cases h
  all_goals decide +kernel

/-- A space is a blank, and it is no part of a word. -/
theorem outside_space : Unicode.isBlank ' ' = true ∧ continuesWord ' ' = false := by
  decide +kernel

theorem endsWord_mark {c : Char} {kind : TokenKind} (h : TokenKind.ofMark? c = some kind)
    (rest : List Char) : EndsWord (c :: rest) :=
  endsWord_cons (TokenKind.outside_of_ofMark? h).2

theorem endsWord_space (rest : List Char) : EndsWord (' ' :: rest) := endsWord_cons outside_space.2

/-- The texts that are cut into a list of tokens, the mark of the end included. -/
inductive Spells : List Char → List TokenKind → Prop
  | finish : Spells [] [.finish]
  | blank {c : Char} {rest : List Char} {ks : List TokenKind} (hc : Unicode.isBlank c = true)
      (h : Spells rest ks) : Spells (c :: rest) ks
  | mark {c : Char} {rest : List Char} {kind : TokenKind} {ks : List TokenKind}
      (hc : Unicode.isBlank c = false) (hkind : TokenKind.ofMark? c = some kind)
      (h : Spells rest ks) : Spells (c :: rest) (kind :: ks)
  | word {w : String} {rest : List Char} {ks : List TokenKind} (hw : IsWord w)
      (hend : EndsWord rest) (h : Spells rest ks) : Spells (w.toList ++ rest) (.word w :: ks)

theorem Spells.ofMark {c : Char} {rest : List Char} {kind : TokenKind} {ks : List TokenKind}
    (hkind : TokenKind.ofMark? c = some kind) (h : Spells rest ks) :
    Spells (c :: rest) (kind :: ks) :=
  .mark (TokenKind.outside_of_ofMark? hkind).1 hkind h

theorem Spells.space {rest : List Char} {ks : List TokenKind} (h : Spells rest ks) :
    Spells (' ' :: rest) ks := .blank outside_space.1 h

namespace Token

/-- What the scanner finds is what the text spells: one case for each way to begin. -/
theorem spells_of_scan {offset : Nat} {cs : List Char} {tokens : List Token}
    (h : scan offset cs = .ok tokens) : Spells cs (tokens.map Token.kind) := by
  induction offset, cs using scan.induct generalizing tokens with
  | case1 offset =>
    rw [scan] at h
    cases h
    exact .finish
  | case2 offset c rest hblank ih =>
    rw [scan, if_pos hblank] at h
    exact .blank hblank (ih h)
  | case3 offset c rest hblank kind hkind ih =>
    rw [scan, if_neg hblank] at h
    simp only [hkind] at h
    obtain ⟨tokens, hrest, rfl⟩ := map_eq_ok_iff.1 h
    exact .mark (by simpa using hblank) hkind (ih hrest)
  | case4 offset c rest hblank hbegins word hmark =>
    rename_i ih
    rw [scan, if_neg hblank] at h
    simp only [hbegins, if_true] at h
    obtain ⟨tokens, hrest, rfl⟩ := map_eq_ok_iff.1 h
    have hword := isWord_cons_wordSplit hblank hmark hbegins rest
    have hspells := Spells.word hword (endsWord_wordSplit rest) (ih hrest)
    rw [String.toList_ofList, List.cons_append, wordSplit_fst_append_snd] at hspells
    exact hspells
  | case5 offset c rest hblank hbegins hmark =>
    rw [scan, if_neg hblank] at h
    simp only [hbegins] at h
    cases h

end Token

/-- What a text spells is found wherever the text begins. -/
theorem Spells.exists_scan {cs : List Char} {ks : List TokenKind} (h : Spells cs ks)
    (offset : Nat) : ∃ tokens, Token.scan offset cs = .ok tokens ∧ tokens.map Token.kind = ks := by
  induction h generalizing offset with
  | finish => exact ⟨[⟨.finish, offset⟩], by rw [Token.scan], rfl⟩
  | blank hc _ ih =>
    rw [Token.scan, if_pos hc]
    exact ih _
  | @mark c rest kind ks hc hkind _ ih =>
    obtain ⟨tokens, htokens, hkinds⟩ := ih (offset + c.utf8Size)
    refine ⟨⟨kind, offset⟩ :: tokens, ?_, by rw [List.map_cons, hkinds]⟩
    rw [Token.scan, if_neg (by simp [hc])]
    simp only [hkind, htokens]
    rfl
  | @word w rest ks hw hend _ ih =>
    obtain ⟨c, cs, hcs, hblank, hmark, hbegins, hcontinues⟩ := hw
    obtain ⟨tokens, htokens, hkinds⟩ := ih (offset + byteCount w.toList)
    have hw : String.ofList (c :: cs) = w := by rw [← hcs, String.ofList_toList]
    refine ⟨⟨.word w, offset⟩ :: tokens, ?_, by rw [List.map_cons, hkinds]⟩
    rw [hcs] at htokens
    rw [hcs, List.cons_append, Token.scan, if_neg (by simp [hblank])]
    simp only [hmark, hbegins, if_true, wordSplit_append hcontinues hend, htokens, hw]
    rfl

/-- What is taken for a word is one. -/
theorem Spells.isWord {cs : List Char} {ks : List TokenKind} (h : Spells cs ks) {w : String}
    (hw : .word w ∈ ks) : IsWord w := by
  induction h with
  | finish => simp at hw
  | blank _ _ ih => exact ih hw
  | mark _ hkind _ ih =>
    rcases List.mem_cons.1 hw with rfl | hw
    · exact absurd hkind (TokenKind.ofMark?_ne_word _ w)
    · exact ih hw
  | word hword _ _ ih =>
    rcases List.mem_cons.1 hw with heq | hw
    · obtain rfl := TokenKind.word.inj heq
      exact hword
    · exact ih hw

end BuilderPlanner
