import BuilderPlanner.Proofs.JavaType.Completeness
import BuilderPlanner.Proofs.JavaType.Spelling

/-!
# The text of a type is read as this type

The reader yields only types whose names are words with dots between them and whose arrays have no
wildcards as elements. The text of such a type spells a written form of it: the annotations are
gone, and blanks stand only after commas and around the words of limits.

* `Readable` — the types that the reader yields;
* `readable_iff` — these are the types that some text is read as;
* `Readable.hasForm` — the text of such a type spells one of its written forms;
* `ofTextIn_text` — what was read in a scope is read again, in the same scope, from its own text.
-/

namespace BuilderPlanner

namespace JavaType

/-! ### The types that are read -/

theorem isWord_keyword (b : Bound) : IsWord b.keyword := by
  cases b with
  | upper =>
    have hrest : ['x', 't', 'e', 'n', 'd', 's'].all continuesWord = true := by decide +kernel
    exact ⟨'e', _, rfl, by decide +kernel, rfl, by decide +kernel, List.all_eq_true.1 hrest⟩
  | lower =>
    have hrest : ['u', 'p', 'e', 'r'].all continuesWord = true := by decide +kernel
    exact ⟨'s', _, rfl, by decide +kernel, rfl, by decide +kernel, List.all_eq_true.1 hrest⟩

/-- All words among the tokens are words. -/
def AllWords (ks : List TokenKind) : Prop := ∀ w, .word w ∈ ks → IsWord w

/-- A wildcard, with a limit or without. -/
def isWildcard : JavaType → Bool
  | wildcard => true
  | bounded _ _ => true
  | _ => false

/-- The types that have a text: names are words with dots between them, and brackets follow no
wildcard. -/
inductive Readable : JavaType → Prop
  | named {q : List TokenKind} {n : String} {ts : List JavaType} (hn : IsName q n)
      (hq : AllWords q) (hts : ∀ t ∈ ts, Readable t) : Readable (.named n ts)
  | array {t : JavaType} (h : Readable t) (ht : t.isWildcard = false) : Readable (.array t)
  | wildcard : Readable .wildcard
  | bounded (b : Bound) {t : JavaType} (h : Readable t) : Readable (.bounded b t)

section

variable {q ks ls : List TokenKind} {n : String} {t : JavaType} {ts : List JavaType}

theorem AllWords.subset (h : AllWords ks) (hsub : ls ⊆ ks) : AllWords ls :=
  fun w hw => h w (hsub hw)

theorem Readable.generic (hn : IsName q n) (h : AllWords (q ++ .less :: ks ++ [.greater]))
    (hts : AllWords ks → ∀ t ∈ ts, Readable t) : Readable (.named n ts) := by
  refine .named hn (h.subset ?_) (hts (h.subset ?_))
  · intro kind hkind
    simp [hkind]
  · intro kind hkind
    simp [hkind]

/-- A written form whose words are words is that of a readable type: one case for each rule of the
grammar. -/
theorem IsType.readable (h : IsType ks t) : AllWords ks → Readable t := by
  refine @IsType.rec (fun ks t _ => AllWords ks → Readable t)
    (fun ks t _ => AllWords ks → Readable t ∧ t.isWildcard = false)
    (fun ks ts _ => AllWords ks → ∀ t ∈ ts, Readable t) ?_ ?_ ?_ ?_ ?_ ?_ ?_ ?_ ?_ ks t h
  · -- an annotated type
    intro q ks n t _ _ ih hks
    exact ih (hks.subset (List.subset_append_right _ _))
  · -- a wildcard
    intro _
    exact .wildcard
  · -- a wildcard with a limit
    intro b ks t _ ih hks
    have hsub : ks ⊆ .question :: .word b.keyword :: ks :=
      List.subset_cons_of_subset _ (List.subset_cons_of_subset _ (List.Subset.refl ks))
    exact .bounded b (ih (hks.subset hsub))
  · -- no wildcard
    intro ks t _ ih hks
    exact (ih hks).1
  · -- a name
    intro q n hn hks
    exact ⟨.named hn hks fun t ht => absurd ht List.not_mem_nil, rfl⟩
  · -- a name with arguments
    intro q ks n ts hn _ ih hks
    exact ⟨.generic hn hks ih, rfl⟩
  · -- an array
    intro ks t _ ih hks
    have ht := ih (hks.subset (List.subset_append_left _ _))
    exact ⟨.array ht.1 ht.2, rfl⟩
  · -- one argument
    intro ks t _ ih hks u hu
    obtain rfl := List.mem_singleton.1 hu
    exact ih hks
  · -- one more argument
    intro ks ls ts t _ _ ih ih' hks u hu
    have hls : ls ⊆ ks ++ .comma :: ls :=
      List.subset_append_of_subset_right _ (List.subset_cons_of_subset _ (List.Subset.refl ls))
    rcases List.mem_append.1 hu with hu | hu
    · exact ih (hks.subset (List.subset_append_left _ _)) u hu
    · obtain rfl := List.mem_singleton.1 hu
      exact ih' (hks.subset hls)

end

/-! ### The tokens of the text of a type -/

/-- Whatever tokens follow it, the text of a type spells a written form of this type. -/
def HasForm (t : JavaType) : Prop :=
  ∀ {rest : List Char} {ls : List TokenKind}, EndsWord rest → Spells rest ls →
    ∃ ks, IsType ks t ∧ (t.isWildcard = false → IsReference ks t) ∧
      Spells (t.text.toList ++ rest) (ks ++ ls)

section

variable {q ls : List TokenKind} {n : String} {t : JavaType} {rest : List Char}

theorem IsName.spells (hn : IsName q n) (hq : AllWords q) (hend : EndsWord rest)
    (h : Spells rest ls) : Spells (n.toList ++ rest) (q ++ ls) := by
  induction hn generalizing rest ls with
  | word w => exact .word (hq w List.mem_cons_self) hend h
  | @dotted q n _ w ih =>
    have hw : IsWord w := hq w (by simp)
    have hdot : Spells ('.' :: (w.toList ++ rest)) (.dot :: .word w :: ls) :=
      .ofMark rfl (.word hw hend h)
    have hname := ih (hq.subset (List.subset_append_left _ _)) (endsWord_mark rfl _) hdot
    simpa [List.append_assoc] using hname

theorem HasForm.plain (hn : IsName q n) (hq : AllWords q) : HasForm (.plain n) := by
  intro rest ls hend h
  exact ⟨q, .reference (.plain hn), fun _ => .plain hn, hn.spells hq hend h⟩

theorem HasForm.wildcard : HasForm .wildcard := by
  intro rest ls _ h
  exact ⟨[.question], .wildcard, nofun, .ofMark rfl h⟩

theorem HasForm.array (ht : HasForm t) (hwildcard : t.isWildcard = false) :
    HasForm (.array t) := by
  intro rest ls _ h
  have hbrackets : Spells ('[' :: ']' :: rest) (.openBracket :: .closeBracket :: ls) :=
    .ofMark rfl (.ofMark rfl h)
  obtain ⟨ks, -, href, hspells⟩ := ht (endsWord_mark rfl _) hbrackets
  have harray := (href hwildcard).array
  refine ⟨_, .reference harray, fun _ => harray, ?_⟩
  simpa [text, List.append_assoc] using hspells

theorem HasForm.bounded (b : Bound) (ht : HasForm t) : HasForm (.bounded b t) := by
  intro rest ls hend h
  obtain ⟨ks, htype, -, hspells⟩ := ht hend h
  refine ⟨_, .bounded b htype, nofun, ?_⟩
  have hlimit := hspells.space
  have hword := Spells.word (isWord_keyword b) (endsWord_space _) hlimit
  have hsign : Spells ('?' :: ' ' :: (b.keyword.toList ++ ' ' :: (t.text.toList ++ rest))) _ :=
    .ofMark rfl hword.space
  simpa [text, List.append_assoc] using hsign

/-! ### Type arguments -/

theorem endsWord_textRest (ts : List JavaType) (rest : List Char) :
    EndsWord ((textRest ts).toList ++ rest) := by
  cases ts with
  | nil => exact endsWord_mark rfl _
  | cons t ts =>
    rw [textRest, String.toList_append, String.toList_append]
    exact endsWord_mark rfl _

/-- The text of the arguments after the first spells what makes written forms of all arguments out
of one of the arguments before them. -/
theorem spells_textRest {ts : List JavaType} (hts : ∀ t ∈ ts, HasForm t) (h : Spells rest ls) :
    ∃ ms, (∀ {ks us}, AreArguments ks us → AreArguments (ks ++ ms) (us ++ ts)) ∧
      Spells ((textRest ts).toList ++ rest) (ms ++ .greater :: ls) := by
  induction ts with
  | nil =>
    refine ⟨[], ?_, .ofMark rfl h⟩
    intro ks us hus
    rwa [List.append_nil, List.append_nil]
  | cons t ts ih =>
    obtain ⟨ms, harguments, hspells⟩ := ih fun u hu => hts u (List.mem_cons_of_mem _ hu)
    obtain ⟨ks, htype, -, hform⟩ := hts t List.mem_cons_self (endsWord_textRest ts rest) hspells
    refine ⟨.comma :: ks ++ ms, ?_, ?_⟩
    · intro ks' us hus
      have hmore := harguments (hus.more htype)
      simpa [List.append_assoc] using hmore
    · have hcomma : Spells (',' :: ' ' :: (t.text.toList ++ ((textRest ts).toList ++ rest))) _ :=
        .ofMark rfl hform.space
      simpa [textRest, List.append_assoc] using hcomma

theorem HasForm.generic {ts : List JavaType} (hn : IsName q n) (hq : AllWords q)
    (ht : HasForm t) (hts : ∀ t ∈ ts, HasForm t) : HasForm (.named n (t :: ts)) := by
  intro rest ls _ h
  obtain ⟨ms, harguments, hrest⟩ := spells_textRest hts h
  obtain ⟨ks, htype, -, hform⟩ := ht (endsWord_textRest ts rest) hrest
  have hless : Spells ('<' :: (t.text.toList ++ ((textRest ts).toList ++ rest))) _ :=
    .ofMark rfl hform
  have hname := hn.spells hq (endsWord_mark rfl _) hless
  have hgeneric : IsReference (q ++ .less :: (ks ++ ms) ++ [.greater]) (.named n (t :: ts)) :=
    .generic hn (harguments (.one htype))
  refine ⟨_, .reference hgeneric, fun _ => hgeneric, ?_⟩
  simpa [text, List.append_assoc] using hname

/-- The text of a readable type spells a written form of it. -/
theorem Readable.hasForm (h : Readable t) : HasForm t := by
  induction h with
  | @named q n ts hn hq _ ih =>
    cases ts with
    | nil => exact HasForm.plain hn hq
    | cons t ts =>
      exact HasForm.generic hn hq (ih t List.mem_cons_self) fun u hu =>
        ih u (List.mem_cons_of_mem _ hu)
  | array _ ht ih => exact ih.array ht
  | wildcard => exact HasForm.wildcard
  | bounded b _ ih => exact ih.bounded b

end

/-! ### Reading what was read -/

theorem Readable.ofText_text {t : JavaType} (h : Readable t) : ofText t.text = .ok t := by
  obtain ⟨ks, htype, -, hspells⟩ := h.hasForm endsWord_nil .finish
  rw [List.append_nil] at hspells
  obtain ⟨tokens, htokens, hkinds⟩ := hspells.exists_scan 0
  rw [ofText, Token.ofText, htokens]
  exact htype.run hkinds 0

/-- The readable types are those that some text is read as. -/
theorem readable_iff {t : JavaType} : Readable t ↔ ∃ text, ofText text = .ok t := by
  constructor
  · intro h
    exact ⟨t.text, h.ofText_text⟩
  · intro h
    obtain ⟨text, h⟩ := h
    unfold ofText at h
    split at h
    · rename_i tokens htokens
      obtain ⟨ks, rest, hkinds, htype⟩ := isType_of_run h
      have hspells := Token.spells_of_scan htokens
      rw [hkinds] at hspells
      exact htype.readable fun w hw => hspells.isWord (List.mem_append_left _ hw)
    · cases h

theorem textRest_map {f : JavaType → JavaType} {ts : List JavaType}
    (h : ∀ t ∈ ts, (f t).text = t.text) : textRest (ts.map f) = textRest ts := by
  induction ts with
  | nil => rfl
  | cons t ts ih =>
    rw [List.map_cons, textRest, textRest, h t List.mem_cons_self,
      ih fun u hu => h u (List.mem_cons_of_mem _ hu)]

/-- A variable is written like the name that it was made of. -/
theorem text_bind (scope : List String) (t : JavaType) : (t.bind scope).text = t.text := by
  induction t with
  | named n ts ih =>
    cases ts with
    | nil =>
      rw [bind]
      split <;> rfl
    | cons t ts =>
      rw [bind, bindAll_eq_map, text, text, ih t List.mem_cons_self,
        textRest_map fun u hu => ih u (List.mem_cons_of_mem _ hu)]
  | var n => rfl
  | array t ih => rw [bind, text, text, ih]
  | wildcard => rfl
  | bounded b t ih => rw [bind, text, text, ih]

/-- **What was read is read again from its own text.** -/
theorem ofTextIn_text {scope : List String} {text : String} {t : JavaType}
    (h : ofTextIn scope text = .ok t) : ofTextIn scope t.text = .ok t := by
  obtain ⟨u, hu, rfl⟩ := map_eq_ok_iff.1 h
  rw [ofTextIn, text_bind, (readable_iff.2 ⟨text, hu⟩).ofText_text]
  rfl

/-- A type with a variable, with a name that is a keyword after the sign of a wildcard only, and
with letters of more than one byte. -/
def menu : JavaType :=
  .named "café.Menü" [.var "T", .bounded .upper (.array (.array (.plain "super")))]

/-- Annotations and blanks are not written again. -/
theorem ofTextIn_text_menu :
    ofTextIn ["T"] "@a.Mark café . Menü<T,? extends @b.Mark super[] []>" = .ok menu ∧
      menu.text = "café.Menü<T, ? extends super[][]>" ∧ ofTextIn ["T"] menu.text = .ok menu := by
  have h : ofTextIn ["T"] "@a.Mark café . Menü<T,? extends @b.Mark super[] []>" = .ok menu :=
    toOption_eq_some_iff.1 (by decide +kernel)
  exact ⟨h, by decide +kernel, ofTextIn_text h⟩

end JavaType

end BuilderPlanner
