import BuilderPlanner.Proofs.CommandLine.Reports

/-!
# Runs succeed or fail as a whole

`runCommand` finds an answer or a fault first and writes then. A program writes while it goes from
stage to stage, and a stage that fails leaves on the screen what was written before it. A session is
such a program, with its stages in their order. No fault in it comes behind something that was
written, so both come to the same: the answer to what is asked, or the one report of what is wrong.

* `Session` — computations that write and may fail, `Session.ofArgs` — the program as such a
  computation;
* `Session.ofArgs_eq` — all of its stages that may fail come before it writes;
* `run_all_or_nothing` — the grammar of options, and what each run writes.
-/

namespace BuilderPlanner

open Options

/-! ### Sessions -/

/-- What stands on the two parts of a screen. -/
structure Screen where
  out : String := ""
  err : String := ""
  deriving DecidableEq, Repr

/-- A computation that writes and may fail. What was written before it fails stays. -/
abbrev Session := ExceptT CommandFault (StateM Screen)

namespace Session

/-- A stage that writes nothing. -/
def stage {α : Type} (x : Except CommandFault α) : Session α := ExceptT.mk (pure x)

/-- Writes a line of output. -/
def print (line : String) : Session Unit :=
  ExceptT.lift (modify fun s => { s with out := s.out ++ (line ++ "\n") })

/-- Writes a line of warning. -/
def warn (warning : String) : Session Unit :=
  ExceptT.lift (modify fun s => { s with err := s.err ++ ("warning: " ++ warning ++ "\n") })

/-- Loads the document in a file. Its text is kept for the wording of later failures. -/
def load (disk : String → FileContent) (file : String) : Session (String × Loaded) := do
  let text ← stage (textOf (disk file))
  let loaded ← stage ((loadDocument text).mapError (.failure · (some text)))
  return (text, loaded)

/-- The command for plans: the warnings are written before the plan. -/
def plan (disk : String → FileContent) (file : String) (o : Options) : Session Unit := do
  let type ← stage (needed "plan" "--type" "qualified name" o.type)
  let (text, loaded) ← load disk file
  let p ← stage ((loaded.catalog.plan loaded.preferences type).mapError (.failure · (some text)))
  p.warnings.forM warn
  print (p.write (layoutOf o.indented))

/-- The command for factories. -/
def factory (disk : String → FileContent) (file : String) (o : Options) : Session Unit := do
  let type ← stage (needed "factory" "--type" "qualified name" o.type)
  let (_, loaded) ← load disk file
  match loaded.catalog.creation? type with
  | some way =>
    let t := ((loaded.catalog.find? type).map Declaration.declaredType).getD (.plain type)
    print (way.describe ++ ": " ++ loaded.catalog.newBuilder way t)
  | none => print "none"

/-- The command for picks. -/
def pickName (disk : String → FileContent) (file : String) (o : Options) : Session Unit := do
  let type ← stage (needed "pick-name" "--type" "qualified name" o.type)
  let name ← stage (needed "pick-name" "--name" "preferred name" o.name)
  let returns ← stage (needed "pick-name" "--returns" "type" o.returns)
  let (text, loaded) ← load disk file
  let (target, result) ←
    stage ((loaded.catalog.pickTypes type returns).mapError (.failure · (some text)))
  let picked := loaded.catalog.pickName target result name
  print (picked.name ++ " " ++ picked.visibility.word)

/-- The command for the names of methods. -/
def methods (property : String) (o : Options) : Session Unit := do
  if isIdentifier property then
    let p := Property.ofName property (o.getter.getD property) .object
    print (p.methodNames.toJson.write (layoutOf o.indented))
  else stage (.error (.badProperty property))

/-- The program as a session. The options are read before the command is looked at. -/
def ofArgs (disk : String → FileContent) : List String → Session Unit
  | command :: subject :: rest => do
    let o ← stage (Options.ofArgs {} rest)
    match command with
    | "plan" => plan disk subject o
    | "factory" => factory disk subject o
    | "pick-name" => pickName disk subject o
    | "methods" => methods subject o
    | _ => stage (.error (.unknownCommand command))
  | _ => stage (.error .notEnoughArguments)

/-- What a session leaves on the screen, with the code that it ends with. A fault is written below
the rest, with the usage. -/
def outcome (locate : Locate) (session : Session Unit) : Outcome :=
  match session.run.run {} with
  | (.ok (), s) => ⟨0, s.out, s.err⟩
  | (.error fault, s) => ⟨1, s.out, s.err ++ (fault.message locate ++ "\n" ++ usage)⟩

/-- Writes an answer. -/
def tell (a : Answer) : Session Unit := do
  a.warnings.forM warn
  print a.text

/-! ### Nothing is written before all is found -/

variable {disk : String → FileContent} {file : String}

theorem stage_bind {α β : Type} (x : Except CommandFault α) (f : α → Except CommandFault β) :
    stage (x >>= f) = stage x >>= fun a => stage (f a) := by
  cases x with
  | error fault => rfl
  | ok a => rfl

/-- A stage before what comes to an answer. -/
theorem stage_bind_eq_tell {α : Type} {x : Except CommandFault α} {run : α → Session Unit}
    {answer : α → Except CommandFault Answer} (h : ∀ a, run a = stage (answer a) >>= tell) :
    stage x >>= run = stage (x >>= answer) >>= tell := by
  rw [stage_bind, bind_assoc, funext h]

/-- A document is loaded before its question comes to an answer. -/
theorem load_bind_eq_tell {question : Question} {run : String × Loaded → Session Unit}
    (h : ∀ text loaded, run (text, loaded) =
      stage ((question.answer loaded).mapError (.failure · (some text))) >>= tell) :
    load disk file >>= run = stage ((Request.ask file question).answer disk) >>= tell := by
  rw [load, bind_assoc]
  refine stage_bind_eq_tell fun text => ?_
  rw [bind_assoc, Question.answerText]
  cases loadDocument text with
  | error fault => rfl
  | ok loaded => exact h text loaded

theorem plan_eq (o : Options) : plan disk file o =
    stage ((do
      let type ← needed "plan" "--type" "qualified name" o.type
      return .ask file (.plan type o.indented)) >>= Request.answer disk) >>= tell := by
  rw [plan, bind_assoc]
  refine stage_bind_eq_tell fun type => load_bind_eq_tell fun text loaded => ?_
  dsimp only
  rw [Question.answer]
  cases loaded.catalog.plan loaded.preferences type with
  | error failure => rfl
  | ok p => rfl

theorem factory_eq (o : Options) : factory disk file o =
    stage ((do
      let type ← needed "factory" "--type" "qualified name" o.type
      return .ask file (.factory type)) >>= Request.answer disk) >>= tell := by
  rw [factory, bind_assoc]
  refine stage_bind_eq_tell fun type => load_bind_eq_tell fun text loaded => ?_
  dsimp only
  cases hway : loaded.catalog.creation? type with
  | none =>
    rw [answer_factory_none hway]
    rfl
  | some way =>
    obtain ⟨d, hd⟩ := Catalog.find?_of_creation? hway
    rw [Question.answer, hway, hd]
    rfl

theorem pickName_eq (o : Options) : pickName disk file o =
    stage ((do
      let type ← needed "pick-name" "--type" "qualified name" o.type
      let name ← needed "pick-name" "--name" "preferred name" o.name
      let returns ← needed "pick-name" "--returns" "type" o.returns
      return .ask file (.pickName type name returns)) >>= Request.answer disk) >>= tell := by
  rw [pickName, bind_assoc]
  refine stage_bind_eq_tell fun type => ?_
  rw [bind_assoc]
  refine stage_bind_eq_tell fun name => ?_
  rw [bind_assoc]
  refine stage_bind_eq_tell fun returns => load_bind_eq_tell fun text loaded => ?_
  dsimp only
  rw [Question.answer]
  cases loaded.catalog.pickTypes type returns with
  | error failure => rfl
  | ok types => rfl

theorem methods_eq (disk : String → FileContent) (property : String) (o : Options) :
    methods property o =
      stage ((Request.methods property o.getter o.indented).answer disk) >>= tell := by
  rw [methods, Request.answer, answerMethods]
  split
  · rfl
  · rfl

/-- A session reads its options as a request does. What comes then is the same if it is so for all
options. -/
theorem ofArgs_eq_of {command subject : String} {rest : List String}
    {run : Options → Session Unit} {request : Options → Except CommandFault Request}
    (hsession : ofArgs disk (command :: subject :: rest) =
      stage (Options.ofArgs {} rest) >>= run)
    (hrequest : Request.ofArgs (command :: subject :: rest) =
      Options.ofArgs {} rest >>= request)
    (h : ∀ o, run o = stage (request o >>= Request.answer disk) >>= tell) :
    ofArgs disk (command :: subject :: rest) =
      stage (answerArgs disk (command :: subject :: rest)) >>= tell := by
  rw [hsession, answerArgs, hrequest, bind_assoc]
  exact stage_bind_eq_tell h

/-- A word that is no command ends the session once the options are read. -/
theorem ofArgs_unknown {command : String}
    (h : command ∉ ["plan", "factory", "pick-name", "methods"]) (subject : String)
    (rest : List String) : ofArgs disk (command :: subject :: rest) =
      stage (Options.ofArgs {} rest) >>= fun _ => stage (.error (.unknownCommand command)) := by
  rw [ofArgs]
  congr 1
  funext o
  split
  all_goals first
    | rfl
    | exact absurd (by decide) h

/-- All that can fail comes before the first line is written. -/
theorem ofArgs_eq (args : List String) :
    ofArgs disk args = stage (answerArgs disk args) >>= tell := by
  obtain _ | ⟨command, _ | ⟨subject, rest⟩⟩ := args
  · rfl
  · rfl
  · -- for one of the four words both sides are the command by evaluation
    by_cases hknown : command ∈ ["plan", "factory", "pick-name", "methods"]
    · simp only [List.mem_cons, List.not_mem_nil, or_false] at hknown
      rcases hknown with rfl | rfl | rfl | rfl
      · exact ofArgs_eq_of rfl rfl plan_eq
      · exact ofArgs_eq_of rfl rfl factory_eq
      · exact ofArgs_eq_of rfl rfl pickName_eq
      · exact ofArgs_eq_of rfl rfl (methods_eq disk subject)
    · exact ofArgs_eq_of (ofArgs_unknown hknown subject rest)
        (request_unknown hknown subject rest) fun _ => rfl

/-- Lines of warning stand one below the other. -/
theorem run_warnings (warnings : List String) (s : Screen) :
    (warnings.forM warn).run.run s =
      (.ok (), { s with
        err := s.err ++ String.join (warnings.map fun w => "warning: " ++ w ++ "\n") }) := by
  induction warnings generalizing s with
  | nil =>
    rw [List.map_nil, String.join_nil, String.append_empty]
    rfl
  | cons w ws ih =>
    rw [List.forM_eq_forM, List.forM_cons, ← List.forM_eq_forM]
    refine (ih { s with err := s.err ++ ("warning: " ++ w ++ "\n") }).trans ?_
    simp only [List.map_cons, String.join_cons, String.append_assoc]

theorem run_tell (a : Answer) (s : Screen) : (tell a).run.run s =
    (.ok (), ⟨s.out ++ (a.text ++ "\n"),
      s.err ++ String.join (a.warnings.map fun w => "warning: " ++ w ++ "\n")⟩) := by
  rw [tell, ExceptT.run_bind, StateT.run_bind, run_warnings]
  rfl

theorem outcome_tell (locate : Locate) (x : Except CommandFault Answer) :
    (stage x >>= tell).outcome locate =
      match x with
      | .ok a => .ofAnswer a
      | .error fault => .ofFault locate fault := by
  cases x with
  | error fault =>
    show Outcome.mk 1 "" ("" ++ (fault.message locate ++ "\n" ++ usage)) = _
    rw [String.empty_append]
    rfl
  | ok a =>
    show (tell a).outcome locate = _
    rw [outcome, run_tell]
    show Outcome.mk 0 ("" ++ (a.text ++ "\n")) ("" ++ _) = _
    rw [String.empty_append, String.empty_append]
    rfl

/-- A session leaves on the screen what is written for its answer or its fault alone. -/
theorem outcome_ofArgs (locate : Locate) (args : List String) :
    (ofArgs disk args).outcome locate = runCommand disk args locate := by
  rw [ofArgs_eq, outcome_tell]
  rfl

end Session

/-! ### Runs -/

section

variable {disk : String → FileContent} {args : List String} {a : Answer} {fault : CommandFault}

theorem runCommand_of_answer (locate : Locate) (h : answerArgs disk args = .ok a) :
    runCommand disk args locate = .ofAnswer a := by
  rw [runCommand, h]

/-- A run without an answer writes one line for its fault, and those on the usage. -/
theorem runCommand_of_fault (locate : Locate) (h : answerArgs disk args = .error fault) :
    runCommand disk args locate =
      ⟨1, "", String.join ((fault.message locate :: usageLines).map (· ++ "\n"))⟩ := by
  rw [runCommand, h, List.map_cons, String.join_cons, join_usageLines]
  rfl

theorem answerArgs_eq_ok_iff :
    answerArgs disk args = .ok a ↔ ∃ request, Asks args request ∧ Answers disk request a := by
  rw [answerArgs, bind_eq_ok_iff]
  exact exists_congr fun request => and_congr asks_iff.symm answers_iff.symm

end

/-- **A run succeeds or fails as a whole.** Options are read by their grammar, in which words are
cut in one way at most: they are accepted just when the words are those of options, each field being
its last value, and otherwise the first word that begins no option, or lacks its value, is reported.
A run that writes from stage to stage leaves the same on the screen as one that finds its answer or
fault first. If its arguments ask for something that has an answer, the run ends with code 0, the
result is its only output and the warnings of the plan are all it says besides. If not, there is one
report of what is wrong, for the first stage that fails; the run ends with code 1 and without output,
and says nothing but this report and how the commands are used. -/
theorem run_all_or_nothing :
    (Function.Injective fun items : List OptionItem => items.flatMap OptionItem.words) ∧
    (∀ (words : List String) (o : Options), Options.ofArgs {} words = .ok o ↔
      ∃ items : List OptionItem, words = items.flatMap OptionItem.words ∧ o = ofItems items) ∧
    ∀ locate : Locate,
      (∀ (words : List String) (fault : CommandFault), Options.ofArgs {} words = .error fault ↔
        ∃ (items : List OptionItem) (rest : List String),
          words = items.flatMap OptionItem.words ++ rest ∧
            Refused rest fault (fault.message locate)) ∧
      ∀ (disk : String → FileContent) (args : List String),
        (Session.ofArgs disk args).outcome locate = runCommand disk args locate ∧
          ((∃ request a, Asks args request ∧ Answers disk request a ∧
              runCommand disk args locate = ⟨0, a.text ++ "\n",
                String.join (a.warnings.map fun w => "warning: " ++ w ++ "\n")⟩) ∨
            (¬ ∃ request a, Asks args request ∧ Answers disk request a) ∧
              ∃ report, (∀ report', Reports locate disk args report' ↔ report' = report) ∧
                runCommand disk args locate =
                  ⟨1, "", String.join ((report :: usageLines).map (· ++ "\n"))⟩) := by
  refine ⟨words_injective, fun words o => ofArgs_eq_ok_iff, fun locate =>
    ⟨fun words fault => ofArgs_eq_error_iff locate, fun disk args =>
      ⟨Session.outcome_ofArgs locate args, ?_⟩⟩⟩
  cases h : answerArgs disk args with
  | ok a =>
    obtain ⟨request, hasks, hanswers⟩ := answerArgs_eq_ok_iff.1 h
    exact .inl ⟨request, a, hasks, hanswers, runCommand_of_answer locate h⟩
  | error fault =>
    refine .inr ⟨?_, fault.message locate, fun report => ?_, runCommand_of_fault locate h⟩
    · rintro ⟨request, a, hasks, hanswers⟩
      have hok := answerArgs_eq_ok_iff.2 ⟨request, hasks, hanswers⟩
      rw [h] at hok
      cases hok
    · rw [reports_iff]
      constructor
      · rintro ⟨fault', hfault, rfl⟩
        cases h.symm.trans hfault
        rfl
      · rintro rfl
        exact ⟨fault, h, rfl⟩

/-- What is reported of a directory stands above the usage. -/
example : (runCommand (fun _ => .error .directory) ["plan", ".", "--type", "a"]).stderr =
    "io error: Is a directory (os error 21)\n" ++ usage := by
  decide +kernel

end BuilderPlanner
