import BuilderPlanner.Proofs.CommandLine.Options
import BuilderPlanner.Proofs.Success

/-!
# Requests and answers

What arguments ask for, and what the answer is, each as a relation with one case for a command.

* `Asks`, `Answers` — the arguments that ask a question, and the answer to it;
* `Holds`, `Loads` — the files in which there is a text, or a document that can be loaded;
* `asks_iff`, `answers_iff` — they are what `Request.ofArgs` and `Request.answer` find.
-/

namespace BuilderPlanner

open Options

/-! ### Questions and answers -/

/-- Arguments ask for something: a command, its subject and spelled options, with those options that
the command cannot do without. -/
inductive Asks : List String → Request → Prop where
  | plan (file : String) {items : List OptionItem} {type : String}
      (htype : (ofItems items).type = some type) :
      Asks ("plan" :: file :: items.flatMap OptionItem.words)
        (.ask file (.plan type (ofItems items).indented))
  | factory (file : String) {items : List OptionItem} {type : String}
      (htype : (ofItems items).type = some type) :
      Asks ("factory" :: file :: items.flatMap OptionItem.words) (.ask file (.factory type))
  | pickName (file : String) {items : List OptionItem} {type name returns : String}
      (htype : (ofItems items).type = some type) (hname : (ofItems items).name = some name)
      (hreturns : (ofItems items).returns = some returns) :
      Asks ("pick-name" :: file :: items.flatMap OptionItem.words)
        (.ask file (.pickName type name returns))
  | methods (property : String) (items : List OptionItem) :
      Asks ("methods" :: property :: items.flatMap OptionItem.words)
        (.methods property (ofItems items).getter (ofItems items).indented)

/-- A file holds a text. -/
def Holds (disk : String → FileContent) (file text : String) : Prop :=
  ∃ bytes, disk file = .ok bytes ∧ String.fromUTF8? bytes = some text

/-- A file holds the text of a document that can be loaded. -/
def Loads (disk : String → FileContent) (file : String) (loaded : Loaded) : Prop :=
  ∃ text, Holds disk file text ∧ loadDocument text = .ok loaded

/-- How the ways to make a builder are called in an answer. -/
def creationLabels : List (String × Creation) :=
  [("no-args constructor", .constructor), ("builder() method", .builderMethod),
    ("newBuilder() method", .newBuilderMethod)]

/-- The answer to a request: the one result of its command, with the warnings of a plan. -/
inductive Answers (disk : String → FileContent) : Request → Answer → Prop where
  | plan {file type : String} {loaded : Loaded} {p : Plan} (indented : Bool)
      (hload : Loads disk file loaded)
      (hplan : loaded.catalog.plan loaded.preferences type = .ok p) :
      Answers disk (.ask file (.plan type indented))
        ⟨p.warnings, p.write (if indented then .indented else .compact)⟩
  | factory {file type label : String} {loaded : Loaded} {d : Declaration} {way : Creation}
      (hload : Loads disk file loaded) (hfind : loaded.catalog.find? type = some d)
      (hway : loaded.catalog.creation? type = some way) (hlabel : (label, way) ∈ creationLabels) :
      Answers disk (.ask file (.factory type))
        ⟨[], label ++ ": " ++ loaded.catalog.newBuilder way d.declaredType⟩
  | noFactory {file type : String} {loaded : Loaded} (hload : Loads disk file loaded)
      (hway : loaded.catalog.creation? type = none) :
      Answers disk (.ask file (.factory type)) ⟨[], "none"⟩
  | pickName {file type returns : String} {loaded : Loaded} {target result : JavaType}
      (name : String) (hload : Loads disk file loaded)
      (htypes : loaded.catalog.pickTypes type returns = .ok (target, result)) :
      Answers disk (.ask file (.pickName type name returns))
        ⟨[], (loaded.catalog.pickName target result name).name ++
          if (loaded.catalog.pickName target result name).visibility = .everywhere then " public"
          else " package"⟩
  | methods {property : String} (getter : Option String) (indented : Bool)
      (hname : isIdentifier property = true) :
      Answers disk (.methods property getter indented)
        ⟨[], (Property.ofName property (getter.getD property) .object).methodNames.toJson.write
          (if indented then .indented else .compact)⟩

/-! ### What arguments ask for -/

theorem needed_eq_ok_iff {command option description : String} {given : Option String}
    {value : String} : needed command option description given = .ok value ↔ given = some value := by
  cases given with
  | none => exact ⟨nofun, nofun⟩
  | some given =>
    constructor
    · intro h
      cases h
      rfl
    · intro h
      cases h
      rfl

/-- A word that is no command is refused once the options are read. -/
theorem request_unknown {command : String}
    (h : command ∉ ["plan", "factory", "pick-name", "methods"]) (subject : String)
    (rest : List String) : Request.ofArgs (command :: subject :: rest) =
      Options.ofArgs {} rest >>= fun _ => .error (.unknownCommand command) := by
  rw [Request.ofArgs]
  congr 1
  funext o
  split
  all_goals first
    | rfl
    | exact absurd (by decide) h

theorem asks_iff {args : List String} {request : Request} :
    Asks args request ↔ Request.ofArgs args = .ok request := by
  constructor
  · intro h
    cases h with
    | @plan file items type htype =>
      exact bind_eq_ok_iff.2 ⟨_, ofArgs_of_items items,
        bind_eq_ok_iff.2 ⟨type, needed_eq_ok_iff.2 htype, rfl⟩⟩
    | @factory file items type htype =>
      exact bind_eq_ok_iff.2 ⟨_, ofArgs_of_items items,
        bind_eq_ok_iff.2 ⟨type, needed_eq_ok_iff.2 htype, rfl⟩⟩
    | @pickName file items type name returns htype hname hreturns =>
      exact bind_eq_ok_iff.2 ⟨_, ofArgs_of_items items,
        bind_eq_ok_iff.2 ⟨type, needed_eq_ok_iff.2 htype,
          bind_eq_ok_iff.2 ⟨name, needed_eq_ok_iff.2 hname,
            bind_eq_ok_iff.2 ⟨returns, needed_eq_ok_iff.2 hreturns, rfl⟩⟩⟩⟩
    | methods property items => exact bind_eq_ok_iff.2 ⟨_, ofArgs_of_items items, rfl⟩
  · intro h
    unfold Request.ofArgs at h
    split at h
    · next command subject rest =>
      obtain ⟨o, ho, h⟩ := bind_eq_ok_iff.1 h
      obtain ⟨items, rfl, rfl⟩ := ofArgs_eq_ok_iff.1 ho
      split at h
      · obtain ⟨type, htype, h⟩ := bind_eq_ok_iff.1 h
        cases h
        exact .plan subject (needed_eq_ok_iff.1 htype)
      · obtain ⟨type, htype, h⟩ := bind_eq_ok_iff.1 h
        cases h
        exact .factory subject (needed_eq_ok_iff.1 htype)
      · obtain ⟨type, htype, h⟩ := bind_eq_ok_iff.1 h
        obtain ⟨name, hname, h⟩ := bind_eq_ok_iff.1 h
        obtain ⟨returns, hreturns, h⟩ := bind_eq_ok_iff.1 h
        cases h
        exact .pickName subject (needed_eq_ok_iff.1 htype) (needed_eq_ok_iff.1 hname)
          (needed_eq_ok_iff.1 hreturns)
      · cases h
        exact .methods subject items
      · cases h
    · cases h

/-! ### What is answered -/

theorem textOf_eq_ok_iff {file : FileContent} {text : String} :
    textOf file = .ok text ↔ ∃ bytes, file = .ok bytes ∧ String.fromUTF8? bytes = some text := by
  cases file with
  | error fault =>
    constructor
    · nofun
    · rintro ⟨bytes, h, -⟩
      cases h
  | ok bytes =>
    cases htext : String.fromUTF8? bytes with
    | none => simp [textOf, htext]
    | some text' => simp [textOf, htext]

/-- A question about a document is answered if the document can be loaded. -/
theorem ask_answer_eq_ok_iff {disk : String → FileContent} {file : String} {question : Question}
    {a : Answer} : (Request.ask file question).answer disk = .ok a ↔
      ∃ loaded, Loads disk file loaded ∧ question.answer loaded = .ok a := by
  rw [Request.answer, bind_eq_ok_iff]
  constructor
  · rintro ⟨text, htext, h⟩
    obtain ⟨loaded, hload, h⟩ := bind_eq_ok_iff.1 (mapError_eq_ok_iff.1 h)
    exact ⟨loaded, ⟨text, textOf_eq_ok_iff.1 htext, hload⟩, h⟩
  · rintro ⟨loaded, ⟨text, htext, hload⟩, h⟩
    exact ⟨text, textOf_eq_ok_iff.2 htext,
      mapError_eq_ok_iff.2 (bind_eq_ok_iff.2 ⟨loaded, hload, h⟩)⟩

theorem Catalog.find?_of_creation? {c : Catalog} {type : String} {way : Creation}
    (h : c.creation? type = some way) : ∃ d, c.find? type = some d := by
  obtain ⟨d, hd, -⟩ := Option.bind_eq_some_iff.1 h
  exact ⟨d, hd⟩

theorem answer_factory_none {loaded : Loaded} {type : String}
    (h : loaded.catalog.creation? type = none) :
    (Question.factory type).answer loaded = .ok ⟨[], "none"⟩ := by
  rw [Question.answer, h]
  cases loaded.catalog.find? type with
  | none => rfl
  | some d => rfl

theorem mem_creationLabels_iff {way : Creation} {label : String} :
    (label, way) ∈ creationLabels ↔ label = way.describe := by
  cases way <;> simp [creationLabels, Creation.describe]

theorem PickedVisibility.space_word (v : PickedVisibility) :
    " " ++ v.word = if v = .everywhere then " public" else " package" := by
  cases v <;> rfl

theorem answers_iff {disk : String → FileContent} {request : Request} {a : Answer} :
    Answers disk request a ↔ request.answer disk = .ok a := by
  constructor
  · intro h
    cases h with
    | plan indented hload hplan =>
      exact ask_answer_eq_ok_iff.2 ⟨_, hload, bind_eq_ok_iff.2 ⟨_, hplan, rfl⟩⟩
    | factory hload hfind hway hlabel =>
      refine ask_answer_eq_ok_iff.2 ⟨_, hload, ?_⟩
      obtain rfl := mem_creationLabels_iff.1 hlabel
      simp only [Question.answer, hfind, hway]
      rfl
    | noFactory hload hway => exact ask_answer_eq_ok_iff.2 ⟨_, hload, answer_factory_none hway⟩
    | pickName name hload htypes =>
      rw [← PickedVisibility.space_word, ← String.append_assoc]
      exact ask_answer_eq_ok_iff.2 ⟨_, hload, bind_eq_ok_iff.2 ⟨_, htypes, rfl⟩⟩
    | methods getter indented hname => exact if_pos hname
  · intro h
    cases request with
    | methods property getter indented =>
      rw [Request.answer, answerMethods] at h
      split at h
      · next hname =>
        cases h
        exact .methods getter indented hname
      · cases h
    | ask file question =>
      obtain ⟨loaded, hload, h⟩ := ask_answer_eq_ok_iff.1 h
      cases question with
      | plan type indented =>
        obtain ⟨p, hplan, h⟩ := bind_eq_ok_iff.1 h
        cases h
        exact .plan indented hload hplan
      | factory type =>
        cases hway : loaded.catalog.creation? type with
        | none =>
          rw [answer_factory_none hway] at h
          cases h
          exact .noFactory hload hway
        | some way =>
          obtain ⟨d, hd⟩ := Catalog.find?_of_creation? hway
          simp only [Question.answer, hd, hway] at h
          cases h
          exact .factory hload hd hway (mem_creationLabels_iff.2 rfl)
      | pickName type name returns =>
        obtain ⟨⟨target, result⟩, htypes, h⟩ := bind_eq_ok_iff.1 h
        cases h
        rw [String.append_assoc, PickedVisibility.space_word]
        exact .pickName name hload htypes

end BuilderPlanner
