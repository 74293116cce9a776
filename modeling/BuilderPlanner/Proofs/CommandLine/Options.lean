import BuilderPlanner.CommandLine
import Mathlib.Data.List.Induction

/-!
# The grammar of options

The words after the command and its subject are cut into options from left to right: a word alone,
or a word with any word behind it as its value, even one that looks like an option.

* `ValueOption`, `OptionItem` — the options, and `OptionItem.words` — how they are spelled;
* `Options.ofItems` — what options say together: each field is the last value given for it;
* `Refused` — words that no option begins with, with the fault and what is reported of it;
* `ofArgs_append`, `Refused.ofArgs` — the reader takes what is spelled, and stops where words are
  refused;
* `exists_items` — all words are spelled options up to their end or up to refused ones;
* `ofArgs_eq_ok_iff`, `ofArgs_eq_error_iff` — so the reader follows the grammar.
-/

namespace BuilderPlanner

/-! ### Options as they are spelled -/

/-- The options with a value. -/
inductive ValueOption where
  | type
  | name
  | returns
  | getter
  deriving DecidableEq, Repr

/-- The word for an option with a value. -/
def ValueOption.word : ValueOption → String
  | type => "--type"
  | name => "--name"
  | returns => "--returns"
  | getter => "--getter"

/-- One option among the words. -/
inductive OptionItem where
  | pretty
  | value (option : ValueOption) (given : String)
  deriving DecidableEq, Repr

namespace OptionItem

/-- The words that an option takes. -/
def words : OptionItem → List String
  | pretty => ["--pretty"]
  | value option given => [option.word, given]

/-- The value that is given for an option. -/
def given? (option : ValueOption) : OptionItem → Option String
  | value option' given => if option' = option then some given else none
  | pretty => none

/-- An option sets its field, over what was set before. -/
def apply (o : Options) : OptionItem → Options
  | pretty => { o with indented := true }
  | value .type given => { o with type := some given }
  | value .name given => { o with name := some given }
  | value .returns given => { o with returns := some given }
  | value .getter given => { o with getter := some given }

end OptionItem

/-- The last value that is given for an option. -/
def lastGiven (option : ValueOption) (items : List OptionItem) : Option String :=
  (items.filterMap (OptionItem.given? option)).getLast?

/-- What options say together. -/
def Options.ofItems (items : List OptionItem) : Options where
  type := lastGiven .type items
  name := lastGiven .name items
  returns := lastGiven .returns items
  getter := lastGiven .getter items
  indented := decide (.pretty ∈ items)

/-- Words that no option begins with: the first one is unknown, or is the last of all words and lacks
its value. The fault names this word, and so does what is reported. -/
inductive Refused : List String → CommandFault → String → Prop where
  | unknown {word : String} (rest : List String) (hpretty : word ≠ "--pretty")
      (hword : ∀ option : ValueOption, word ≠ option.word) :
      Refused (word :: rest) (.unknownOption word) ("unknown option '" ++ word ++ "'")
  | missing (option : ValueOption) :
      Refused [option.word] (.missingValue option.word) ("missing value for " ++ option.word)

/-! ### Words of options -/

theorem ValueOption.word_ne_pretty (option : ValueOption) : option.word ≠ "--pretty" := by
  cases option <;> decide

theorem ValueOption.word_injective : Function.Injective ValueOption.word := by
  intro option option' h
  cases option <;> cases option' <;> first | rfl | exact absurd h (by decide)

/-- The words of options tell which options they are, and where each of them ends. -/
theorem words_injective : Function.Injective fun items : List OptionItem =>
    items.flatMap OptionItem.words := by
  intro items
  induction items with
  | nil =>
    intro items' h
    cases items' with
    | nil => rfl
    | cons item' _ => cases item' <;> exact absurd h (List.cons_ne_nil _ _).symm
  | cons item items ih =>
    intro items' h
    cases items' with
    | nil => cases item <;> exact absurd h (List.cons_ne_nil _ _)
    | cons item' items' =>
      cases item with
      | pretty =>
        cases item' with
        | pretty => exact congrArg _ (ih (List.cons.inj h).2)
        | value option' _ => exact absurd (List.cons.inj h).1.symm option'.word_ne_pretty
      | value option given =>
        cases item' with
        | pretty => exact absurd (List.cons.inj h).1 option.word_ne_pretty
        | value option' given' =>
          obtain ⟨hword, htail⟩ := List.cons.inj h
          obtain ⟨hgiven, htail⟩ := List.cons.inj htail
          rw [ValueOption.word_injective hword, hgiven, ih htail]

/-! ### The reader -/

/-- The reader knows the words of the options with a value, and no others. -/
theorem setter?_word (option : ValueOption) :
    Options.setter? option.word = some fun o given => (OptionItem.value option given).apply o := by
  cases option <;> rfl

theorem setter?_eq_none {word : String} (h : ∀ option : ValueOption, word ≠ option.word) :
    Options.setter? word = none := by
  unfold Options.setter?
  split
  · exact absurd rfl (h .type)
  · exact absurd rfl (h .name)
  · exact absurd rfl (h .returns)
  · exact absurd rfl (h .getter)
  · rfl

namespace Options

/-- A spelled option is taken off the words. -/
theorem ofArgs_words (o : Options) (item : OptionItem) (rest : List String) :
    ofArgs o (item.words ++ rest) = ofArgs (item.apply o) rest := by
  cases item with
  | pretty =>
    show ofArgs o ("--pretty" :: rest) = ofArgs { o with indented := true } rest
    cases rest with
    | nil => rfl
    | cons word rest => rw [ofArgs, if_pos rfl]
  | value option given =>
    show ofArgs o (option.word :: given :: rest) = _
    rw [ofArgs, if_neg option.word_ne_pretty, setter?_word]

/-- Spelled options are taken off the words, one after the other. -/
theorem ofArgs_append (o : Options) (items : List OptionItem) (rest : List String) :
    ofArgs o (items.flatMap OptionItem.words ++ rest) =
      ofArgs (items.foldl OptionItem.apply o) rest := by
  induction items generalizing o with
  | nil => rfl
  | cons item items ih =>
    rw [List.flatMap_cons, List.append_assoc, ofArgs_words, ih, List.foldl_cons]

/-- One more option replaces what was said about its field. -/
theorem ofItems_concat (items : List OptionItem) (item : OptionItem) :
    ofItems (items ++ [item]) = item.apply (ofItems items) := by
  have hlast : ∀ option, lastGiven option (items ++ [item]) =
      (item.given? option).or (lastGiven option items) := by
    intro option
    rw [lastGiven, lastGiven, List.filterMap_append]
    cases hgiven : item.given? option with
    | none => simp [hgiven]
    | some given => simp [hgiven]
  have hpretty : (OptionItem.pretty ∈ items ++ [item]) ↔ .pretty ∈ items ∨ .pretty = item := by
    rw [List.mem_append, List.mem_singleton]
  simp only [ofItems, hlast, hpretty]
  cases item with
  | pretty => simp [OptionItem.given?, OptionItem.apply]
  | value option given => cases option <;> simp [OptionItem.given?, OptionItem.apply]

theorem foldl_apply (items : List OptionItem) : items.foldl OptionItem.apply {} = ofItems items := by
  induction items using List.reverseRecOn with
  | nil => rfl
  | append_singleton items item ih =>
    rw [List.foldl_append, ih]
    exact (ofItems_concat items item).symm

end Options

open Options

theorem Refused.message_eq {rest : List String} {fault : CommandFault} {report : String}
    (h : Refused rest fault report) (locate : Locate) : fault.message locate = report := by
  cases h with
  | unknown rest _ _ => rfl
  | missing option => rfl

theorem Refused.ofArgs {rest : List String} {fault : CommandFault} {report : String}
    (h : Refused rest fault report) (o : Options) : ofArgs o rest = .error fault := by
  cases h with
  | @unknown word rest hpretty hword =>
    cases rest with
    | nil => rw [Options.ofArgs, if_neg hpretty, setter?_eq_none hword]
    | cons value rest => rw [Options.ofArgs, if_neg hpretty, setter?_eq_none hword]
  | missing option => rw [Options.ofArgs, if_neg option.word_ne_pretty, setter?_word]

/-- Words are spelled options up to their end, or up to where the rest of them is refused. The
induction is on the number of words, as an option takes one or two of them. -/
theorem exists_items (words : List String) : ∃ (items : List OptionItem) (rest : List String),
    words = items.flatMap OptionItem.words ++ rest ∧
      (rest = [] ∨ ∃ fault report, Refused rest fault report) := by
  induction hn : words.length using Nat.strongRecOn generalizing words with
  | ind n ih =>
    have hitem : ∀ (item : OptionItem) (more : List String), words = item.words ++ more →
        ∃ (items : List OptionItem) (rest : List String),
          words = items.flatMap OptionItem.words ++ rest ∧
            (rest = [] ∨ ∃ fault report, Refused rest fault report) := by
      intro item more hwords
      have hlt : more.length < n := by
        rw [← hn, hwords, List.length_append]
        cases item <;> simp [OptionItem.words]
      obtain ⟨items, rest, hmore, hrest⟩ := ih more.length hlt more rfl
      refine ⟨item :: items, rest, ?_, hrest⟩
      rw [List.flatMap_cons, List.append_assoc, ← hmore, hwords]
    cases words with
    | nil => exact ⟨[], [], rfl, .inl rfl⟩
    | cons word more =>
      by_cases hpretty : word = "--pretty"
      · exact hitem .pretty more (by rw [hpretty]; rfl)
      · by_cases hword : ∃ option : ValueOption, word = option.word
        · obtain ⟨option, rfl⟩ := hword
          cases more with
          | nil => exact ⟨[], [option.word], rfl, .inr ⟨_, _, .missing option⟩⟩
          | cons given more => exact hitem (.value option given) more rfl
        · exact ⟨[], word :: more, rfl,
            .inr ⟨_, _, .unknown more hpretty fun option h => hword ⟨option, h⟩⟩⟩

/-! ### What the reader accepts and refuses -/

theorem ofArgs_of_items (items : List OptionItem) :
    ofArgs {} (items.flatMap OptionItem.words) = .ok (ofItems items) := by
  have happend := ofArgs_append {} items []
  rw [List.append_nil, foldl_apply] at happend
  rw [happend, Options.ofArgs]

theorem ofArgs_of_refused (items : List OptionItem) {rest : List String} {fault : CommandFault}
    {report : String} (h : Refused rest fault report) :
    ofArgs {} (items.flatMap OptionItem.words ++ rest) = .error fault := by
  rw [ofArgs_append, h.ofArgs]

/-- The reader accepts the words of options, and finds what these say together. -/
theorem ofArgs_eq_ok_iff {words : List String} {o : Options} : ofArgs {} words = .ok o ↔
    ∃ items : List OptionItem, words = items.flatMap OptionItem.words ∧ o = ofItems items := by
  constructor
  · intro h
    obtain ⟨items, rest, rfl, rfl | ⟨fault, report, hrest⟩⟩ := exists_items words
    · rw [List.append_nil, ofArgs_of_items] at h
      exact ⟨items, List.append_nil _, (Except.ok.inj h).symm⟩
    · rw [ofArgs_of_refused items hrest] at h
      exact absurd h nofun
  · rintro ⟨items, rfl, rfl⟩
    exact ofArgs_of_items items

/-- The reader refuses words where they are not those of options, and reports the first such word. -/
theorem ofArgs_eq_error_iff {words : List String} {fault : CommandFault} (locate : Locate) :
    ofArgs {} words = .error fault ↔ ∃ (items : List OptionItem) (rest : List String),
      words = items.flatMap OptionItem.words ++ rest ∧
        Refused rest fault (fault.message locate) := by
  constructor
  · intro h
    obtain ⟨items, rest, rfl, rfl | ⟨fault', report, hrest⟩⟩ := exists_items words
    · rw [List.append_nil, ofArgs_of_items] at h
      exact absurd h nofun
    · rw [ofArgs_of_refused items hrest] at h
      obtain rfl := Except.error.inj h
      exact ⟨items, rest, rfl, hrest.message_eq locate ▸ hrest⟩
  · rintro ⟨items, rest, rfl, hrest⟩
    exact ofArgs_of_refused items hrest

/-- A value may look like an option, and a later value overrides an earlier one. -/
example : ofArgs {} ["--type", "--pretty", "--name", "a", "--type", "b"] =
    .ok { type := some "b", name := some "a" } := by
  rfl

end BuilderPlanner
