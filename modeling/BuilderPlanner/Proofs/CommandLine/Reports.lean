import BuilderPlanner.Proofs.Catalog.Loaded
import BuilderPlanner.Proofs.CommandLine.Requests

/-!
# Faults and what is reported of them

Arguments may ask for nothing, and a request may have no answer. What is reported then is one line,
given here with its text for each stage that can fail.

* `Declines` — arguments that ask for nothing, with what is reported;
* `Fails` — requests without an answer, with what is reported;
* `Reports` — a run without an answer, by one of the two;
* `usageLines` — what is written below it;
* `declines_iff`, `fails_iff`, `reports_iff` — these are the messages of the faults.
-/

namespace BuilderPlanner

open Options

/-! ### What is reported -/

/-- Arguments ask for nothing. The options are read before the command is looked at, and the options
that a command cannot do without are looked for one after the other. -/
inductive Declines : List String → String → Prop where
  | tooFew {args : List String} (h : args.length < 2) : Declines args "not enough arguments"
  | refused (command subject : String) (items : List OptionItem) {rest : List String}
      {fault : CommandFault} {report : String} (h : Refused rest fault report) :
      Declines (command :: subject :: (items.flatMap OptionItem.words ++ rest)) report
  | unknownCommand {command : String} (subject : String) (items : List OptionItem)
      (h : command ∉ ["plan", "factory", "pick-name", "methods"]) :
      Declines (command :: subject :: items.flatMap OptionItem.words)
        ("unknown command '" ++ command ++ "'")
  | noType {command : String} (subject : String) {items : List OptionItem}
      (hcommand : command ∈ ["plan", "factory", "pick-name"])
      (htype : (ofItems items).type = none) :
      Declines (command :: subject :: items.flatMap OptionItem.words)
        (command ++ " requires --type <qualified name>")
  | noName (subject : String) {items : List OptionItem} {type : String}
      (htype : (ofItems items).type = some type) (hname : (ofItems items).name = none) :
      Declines ("pick-name" :: subject :: items.flatMap OptionItem.words)
        "pick-name requires --name <preferred name>"
  | noReturns (subject : String) {items : List OptionItem} {type name : String}
      (htype : (ofItems items).type = some type) (hname : (ofItems items).name = some name)
      (hreturns : (ofItems items).returns = none) :
      Declines ("pick-name" :: subject :: items.flatMap OptionItem.words)
        "pick-name requires --returns <type>"

/-- A request has no answer: the file cannot be read, or holds no document, or the document has no
answer to the question, or the property is none. -/
inductive Fails (locate : Locate) (disk : String → FileContent) : Request → String → Prop where
  | unreadable {file : String} {error : SystemError} (question : Question)
      (h : disk file = .error error) :
      Fails locate disk (.ask file question)
        ("io error: " ++ error.text ++ " (os error " ++ toString error.number ++ ")")
  | notText {file : String} {bytes : ByteArray} (question : Question) (h : disk file = .ok bytes)
      (htext : String.fromUTF8? bytes = none) :
      Fails locate disk (.ask file question) "io error: stream did not contain valid UTF-8"
  | badJson {file text : String} {fault : Json.Fault} (question : Question)
      (htext : Holds disk file text) (hload : loadDocument text = .error (.json fault)) :
      Fails locate disk (.ask file question)
        ("serialization error: " ++ fault.message ++ locate fault text)
  | notLoaded {file text : String} {cause : Failure} (question : Question)
      (htext : Holds disk file text) (hload : loadDocument text = .error cause)
      (hcause : ∀ fault, cause ≠ .json fault) :
      Fails locate disk (.ask file question) cause.message
  | unknownType {file type : String} {loaded : Loaded} (indented : Bool)
      (hload : Loads disk file loaded) (hfind : loaded.catalog.find? type = none) :
      Fails locate disk (.ask file (.plan type indented)) ("unknown type: " ++ type)
  | badTypeText {file type returns text : String} {loaded : Loaded} {fault : TypeFault}
      (name : String) (hload : Loads disk file loaded)
      (htypes : loaded.catalog.pickTypes type returns = .error (.typeText text fault)) :
      Fails locate disk (.ask file (.pickName type name returns))
        ("type syntax error: " ++ fault.describe text)
  | badProperty {property : String} (getter : Option String) (indented : Bool)
      (h : isIdentifier property = false) :
      Fails locate disk (.methods property getter indented)
        ("'" ++ property ++ "' is not a valid property name")

/-- A run has no answer, with what is reported. -/
inductive Reports (locate : Locate) (disk : String → FileContent) :
    List String → String → Prop where
  | declined {args : List String} {report : String} (h : Declines args report) :
      Reports locate disk args report
  | failed {args : List String} {request : Request} {report : String} (hasks : Asks args request)
      (h : Fails locate disk request report) : Reports locate disk args report

/-- The lines below a report, which tell how the commands are used. -/
def usageLines : List String :=
  ["usage:",
    "  valuegen plan <model.json> --type <value type> [--pretty]",
    "  valuegen factory <model.json> --type <builder type>",
    "  valuegen pick-name <model.json> --type <target type> --name <name> --returns <type>",
    "  valuegen methods <property> [--getter <name>] [--pretty]",
    "",
    "set RUST_LOG=valuegen=debug to trace naming and factory decisions."]

variable {locate : Locate} {disk : String → FileContent} {args : List String} {request : Request}
  {report : String} {fault : CommandFault}

/-! ### Arguments that ask for nothing -/

theorem needed_eq_error_iff {command option description : String} {given : Option String} :
    needed command option description given = .error fault ↔
      given = none ∧ fault = .missingOption command option description := by
  cases given with
  | none =>
    constructor
    · intro h
      cases h
      exact ⟨rfl, rfl⟩
    · rintro ⟨-, rfl⟩
      rfl
  | some given => exact ⟨nofun, nofun⟩

/-- The line for an option that a command cannot do without. -/
theorem message_noType (locate : Locate) (command : String) :
    (CommandFault.missingOption command "--type" "qualified name").message locate =
      command ++ " requires --type <qualified name>" := by
  show command ++ " requires " ++ "--type" ++ " <" ++ "qualified name" ++ ">" = _
  simp only [String.append_assoc, String.reduceAppend]

theorem request_of_refused (command subject : String) {words : List String}
    (h : Options.ofArgs {} words = .error fault) :
    Request.ofArgs (command :: subject :: words) = .error fault :=
  bind_eq_error_iff.2 (.inl h)

theorem exists_fault_of_declines (locate : Locate) (h : Declines args report) :
    ∃ fault, Request.ofArgs args = .error fault ∧ fault.message locate = report := by
  cases h with
  | tooFew h =>
    obtain _ | ⟨command, _ | ⟨subject, rest⟩⟩ := args
    · exact ⟨.notEnoughArguments, rfl, rfl⟩
    · exact ⟨.notEnoughArguments, rfl, rfl⟩
    · simp only [List.length_cons] at h
      omega
  | refused command subject items h =>
    exact ⟨_, request_of_refused command subject (ofArgs_of_refused items h),
      h.message_eq locate⟩
  | unknownCommand subject items h =>
    refine ⟨.unknownCommand _, ?_, rfl⟩
    rw [request_unknown h, ofArgs_of_items]
    rfl
  | @noType command subject items hcommand htype =>
    refine ⟨.missingOption command "--type" "qualified name", ?_, message_noType locate command⟩
    have hneeded : needed command "--type" "qualified name" (ofItems items).type =
        .error (.missingOption command "--type" "qualified name") :=
      needed_eq_error_iff.2 ⟨htype, rfl⟩
    simp only [List.mem_cons, List.not_mem_nil, or_false] at hcommand
    rcases hcommand with rfl | rfl | rfl
    all_goals exact bind_eq_error_iff.2 (.inr ⟨_, ofArgs_of_items items,
      bind_eq_error_iff.2 (.inl hneeded)⟩)
  | @noName subject items type htype hname =>
    refine ⟨.missingOption "pick-name" "--name" "preferred name", ?_, rfl⟩
    exact bind_eq_error_iff.2 (.inr ⟨_, ofArgs_of_items items,
      bind_eq_error_iff.2 (.inr ⟨type, needed_eq_ok_iff.2 htype,
        bind_eq_error_iff.2 (.inl (needed_eq_error_iff.2 ⟨hname, rfl⟩))⟩)⟩)
  | @noReturns subject items type name htype hname hreturns =>
    refine ⟨.missingOption "pick-name" "--returns" "type", ?_, rfl⟩
    exact bind_eq_error_iff.2 (.inr ⟨_, ofArgs_of_items items,
      bind_eq_error_iff.2 (.inr ⟨type, needed_eq_ok_iff.2 htype,
        bind_eq_error_iff.2 (.inr ⟨name, needed_eq_ok_iff.2 hname,
          bind_eq_error_iff.2 (.inl (needed_eq_error_iff.2 ⟨hreturns, rfl⟩))⟩)⟩)⟩)

/-- Every fault in the arguments is reported: in their number, in their options, or in what the
command needs. -/
theorem declines_of_ofArgs (locate : Locate) (h : Request.ofArgs args = .error fault) :
    Declines args (fault.message locate) := by
  unfold Request.ofArgs at h
  split at h
  · next command subject rest =>
    rcases bind_eq_error_iff.1 h with h | ⟨o, ho, h⟩
    · obtain ⟨items, rest', rfl, hrefused⟩ := (ofArgs_eq_error_iff locate).1 h
      exact .refused command subject items hrefused
    · obtain ⟨items, rfl, rfl⟩ := ofArgs_eq_ok_iff.1 ho
      split at h
      · rcases bind_eq_error_iff.1 h with h | ⟨type, -, h⟩
        · obtain ⟨htype, rfl⟩ := needed_eq_error_iff.1 h
          exact .noType subject (by decide) htype
        · cases h
      · rcases bind_eq_error_iff.1 h with h | ⟨type, -, h⟩
        · obtain ⟨htype, rfl⟩ := needed_eq_error_iff.1 h
          exact .noType subject (by decide) htype
        · cases h
      · rcases bind_eq_error_iff.1 h with h | ⟨type, htype, h⟩
        · obtain ⟨htype, rfl⟩ := needed_eq_error_iff.1 h
          exact .noType subject (by decide) htype
        have htype := needed_eq_ok_iff.1 htype
        rcases bind_eq_error_iff.1 h with h | ⟨name, hname, h⟩
        · obtain ⟨hname, rfl⟩ := needed_eq_error_iff.1 h
          exact .noName subject htype hname
        have hname := needed_eq_ok_iff.1 hname
        rcases bind_eq_error_iff.1 h with h | ⟨returns, -, h⟩
        · obtain ⟨hreturns, rfl⟩ := needed_eq_error_iff.1 h
          exact .noReturns subject htype hname hreturns
        · cases h
      · cases h
      · next hplan hfactory hpick hmethods =>
        cases h
        refine .unknownCommand subject items fun hmem => ?_
        simp only [List.mem_cons, List.not_mem_nil, or_false] at hmem
        rcases hmem with rfl | rfl | rfl | rfl
        · exact hplan rfl
        · exact hfactory rfl
        · exact hpick rfl
        · exact hmethods rfl
  · next hshort =>
    cases h
    refine .tooFew ?_
    obtain _ | ⟨command, _ | ⟨subject, rest⟩⟩ := args
    · decide
    · exact Nat.lt_succ_self 1
    · exact absurd rfl (hshort command subject rest)

theorem declines_iff (locate : Locate) : Declines args report ↔
    ∃ fault, Request.ofArgs args = .error fault ∧ fault.message locate = report := by
  constructor
  · exact exists_fault_of_declines locate
  · rintro ⟨fault, h, rfl⟩
    exact declines_of_ofArgs locate h

/-! ### Requests without an answer -/

theorem message_unreadable (locate : Locate) (error : SystemError) :
    (CommandFault.failure (.file (.system error)) none).message locate =
      "io error: " ++ error.text ++ " (os error " ++ toString error.number ++ ")" := by
  show "io error: " ++ (error.text ++ " (os error " ++ toString error.number ++ ")") = _
  simp only [String.append_assoc]

/-- A failure on a document is reported as it is, if it is none in the text. -/
theorem message_failure (locate : Locate) {cause : Failure} (text : String)
    (h : ∀ fault, cause ≠ .json fault) :
    (CommandFault.failure cause (some text)).message locate = cause.message := by
  cases cause with
  | json fault => exact absurd rfl (h fault)
  | model _ | typeText _ _ | unknownType _ | badBuilderName _ | file _ => rfl

/-- The faults of a text that is read as a type. -/
theorem exists_typeFault {scope : List String} {text : String} {cause : Failure}
    (h : readTypeIn scope text = .error cause) : ∃ fault, cause = .typeText text fault := by
  obtain ⟨fault, -, rfl⟩ := mapError_eq_error_iff.1 h
  exact ⟨fault, rfl⟩

/-- A document that is loaded has a plan for each of its types. -/
theorem plan_eq_error_iff {text : String} {loaded : Loaded} (hload : loadDocument text = .ok loaded)
    {type : String} {cause : Failure} :
    loaded.catalog.plan loaded.preferences type = .error cause ↔
      loaded.catalog.find? type = none ∧ cause = .unknownType type := by
  obtain ⟨doc, -, hdoc⟩ := bind_eq_ok_iff.1 hload
  obtain ⟨hcheck, hdoc⟩ := check_bind_eq_ok_iff.1 hdoc
  obtain ⟨c, -, hc⟩ := bind_eq_ok_iff.1 hdoc
  cases hc
  rw [Catalog.plan, hcheck]
  cases c.find? type with
  | none =>
    constructor
    · intro h
      cases h
      exact ⟨rfl, rfl⟩
    · rintro ⟨-, rfl⟩
      rfl
  | some d =>
    constructor
    · intro h
      cases h
    · rintro ⟨h, -⟩
      cases h

/-- A pick fails only where one of its two texts is no type. -/
theorem exists_typeFault_of_pickTypes {c : Catalog} {type returns : String} {cause : Failure}
    (h : c.pickTypes type returns = .error cause) : ∃ text fault, cause = .typeText text fault := by
  rcases bind_eq_error_iff.1 h with h | ⟨t, -, h⟩
  · exact ⟨type, exists_typeFault h⟩
  · rcases bind_eq_error_iff.1 h with h | ⟨r, -, h⟩
    · exact ⟨returns, exists_typeFault h⟩
    · cases h

theorem textOf_eq_error_iff {file : FileContent} :
    textOf file = .error fault ↔
      (∃ error, file = .error error ∧ fault = .failure (.file (.system error)) none) ∨
        ∃ bytes, file = .ok bytes ∧ String.fromUTF8? bytes = none ∧
          fault = .failure (.file .notText) none := by
  cases file with
  | error error => simp [textOf, @eq_comm _ fault]
  | ok bytes =>
    cases htext : String.fromUTF8? bytes with
    | none => simp [textOf, htext, @eq_comm _ fault]
    | some text => simp [textOf, htext]

/-- A question fails because its file holds no text, because the text is no document, or on the
document. -/
theorem ask_answer_eq_error_iff {file : String} {question : Question} :
    (Request.ask file question).answer disk = .error fault ↔
      textOf (disk file) = .error fault ∨ ∃ text, Holds disk file text ∧ ∃ cause,
        (loadDocument text = .error cause ∨
          ∃ loaded, loadDocument text = .ok loaded ∧ question.answer loaded = .error cause) ∧
        .failure cause (some text) = fault := by
  rw [Request.answer, bind_eq_error_iff]
  refine or_congr_right (exists_congr fun text => and_congr textOf_eq_ok_iff ?_)
  rw [mapError_eq_error_iff, Question.answerText]
  exact exists_congr fun cause => and_congr_left fun _ => bind_eq_error_iff

theorem exists_fault_of_fails (h : Fails locate disk request report) :
    ∃ fault, request.answer disk = .error fault ∧ fault.message locate = report := by
  cases h with
  | unreadable question h =>
    exact ⟨_, ask_answer_eq_error_iff.2 (.inl (textOf_eq_error_iff.2 (.inl ⟨_, h, rfl⟩))),
      message_unreadable locate _⟩
  | notText question h htext =>
    exact ⟨_, ask_answer_eq_error_iff.2 (.inl (textOf_eq_error_iff.2 (.inr ⟨_, h, htext, rfl⟩))),
      rfl⟩
  | badJson question htext hload =>
    exact ⟨_, ask_answer_eq_error_iff.2 (.inr ⟨_, htext, _, .inl hload, rfl⟩), rfl⟩
  | notLoaded question htext hload hcause =>
    exact ⟨_, ask_answer_eq_error_iff.2 (.inr ⟨_, htext, _, .inl hload, rfl⟩),
      message_failure locate _ hcause⟩
  | unknownType indented hload hfind =>
    obtain ⟨text, htext, hload⟩ := hload
    have hplan := (plan_eq_error_iff hload).2 ⟨hfind, rfl⟩
    exact ⟨_, ask_answer_eq_error_iff.2 (.inr ⟨text, htext, _,
      .inr ⟨_, hload, bind_eq_error_iff.2 (.inl hplan)⟩, rfl⟩), rfl⟩
  | badTypeText name hload htypes =>
    obtain ⟨text, htext, hload⟩ := hload
    exact ⟨_, ask_answer_eq_error_iff.2 (.inr ⟨text, htext, _,
      .inr ⟨_, hload, bind_eq_error_iff.2 (.inl htypes)⟩, rfl⟩), rfl⟩
  | @badProperty property getter indented h =>
    refine ⟨.badProperty property, if_neg ?_, rfl⟩
    simp [h]

/-- Every fault behind the arguments is reported: in the file, in the document, or in the question
to it. -/
theorem fails_of_answer (locate : Locate) (h : request.answer disk = .error fault) :
    Fails locate disk request (fault.message locate) := by
  cases request with
  | methods property getter indented =>
    rw [Request.answer, answerMethods] at h
    split at h
    · cases h
    · next hname =>
      cases h
      exact .badProperty getter indented (by simpa using hname)
  | ask file question =>
    rcases ask_answer_eq_error_iff.1 h with h | ⟨text, htext, cause, hcause, rfl⟩
    · rcases textOf_eq_error_iff.1 h with ⟨error, hdisk, rfl⟩ | ⟨bytes, hdisk, hbytes, rfl⟩
      · rw [message_unreadable]
        exact .unreadable question hdisk
      · exact .notText question hdisk hbytes
    rcases hcause with hload | ⟨loaded, hload, hcause⟩
    · by_cases hjson : ∃ fault, cause = .json fault
      · obtain ⟨fault, rfl⟩ := hjson
        exact .badJson question htext hload
      · have hcause : ∀ fault, cause ≠ .json fault := fun fault h => hjson ⟨fault, h⟩
        rw [message_failure locate text hcause]
        exact .notLoaded question htext hload hcause
    · have hloads : Loads disk file loaded := ⟨text, htext, hload⟩
      cases question with
      | plan type indented =>
        rcases bind_eq_error_iff.1 hcause with hplan | ⟨p, -, hcause⟩
        · obtain ⟨hfind, rfl⟩ := (plan_eq_error_iff hload).1 hplan
          exact .unknownType indented hloads hfind
        · cases hcause
      | factory type =>
        rw [Question.answer] at hcause
        split at hcause
        · cases hcause
        · cases hcause
      | pickName type name returns =>
        rcases bind_eq_error_iff.1 hcause with htypes | ⟨types, -, hcause⟩
        · obtain ⟨text', fault, rfl⟩ := exists_typeFault_of_pickTypes htypes
          exact .badTypeText name hloads htypes
        · cases hcause

theorem fails_iff : Fails locate disk request report ↔
    ∃ fault, request.answer disk = .error fault ∧ fault.message locate = report := by
  constructor
  · exact exists_fault_of_fails
  · rintro ⟨fault, h, rfl⟩
    exact fails_of_answer locate h

/-! ### Runs without an answer -/

theorem reports_iff : Reports locate disk args report ↔
    ∃ fault, answerArgs disk args = .error fault ∧ fault.message locate = report := by
  constructor
  · intro h
    cases h with
    | declined h =>
      obtain ⟨fault, hfault, hmessage⟩ := (declines_iff locate).1 h
      exact ⟨fault, bind_eq_error_iff.2 (.inl hfault), hmessage⟩
    | failed hasks h =>
      obtain ⟨fault, hfault, hmessage⟩ := fails_iff.1 h
      exact ⟨fault, bind_eq_error_iff.2 (.inr ⟨_, asks_iff.1 hasks, hfault⟩), hmessage⟩
  · rintro ⟨fault, h, hmessage⟩
    rcases bind_eq_error_iff.1 h with h | ⟨request, hasks, h⟩
    · exact .declined ((declines_iff locate).2 ⟨fault, h, hmessage⟩)
    · exact .failed (asks_iff.2 hasks) (fails_iff.2 ⟨fault, h, hmessage⟩)

theorem join_usageLines : String.join (usageLines.map (· ++ "\n")) = usage := by
  decide +kernel

end BuilderPlanner
