import BuilderPlanner.Plan.Text

/-!
# The command line

Four commands answer questions about a document in a file, or about a property.

* `Request` — a command with its options, and `Request.ofArgs` — read from arguments;
* `Request.file?` — the file that a request needs, and `Request.answer` — the answer to it;
* `CommandFault` — why a run fails, and `CommandFault.message` — the wording of it;
* `Outcome` — what a run writes and the code that it ends with;
* `runCommand` — a whole run.
-/

namespace BuilderPlanner

/-! ### Requests -/

/-- A question about a document. -/
inductive Question where
  /-- The plan for a value type. -/
  | plan (type : String) (indented : Bool)
  /-- The way to make a builder. -/
  | factory (type : String)
  /-- A name for a method without parameters. -/
  | pickName (type name returns : String)
  deriving DecidableEq, Repr

/-- A command with its options. -/
inductive Request where
  /-- A question about the document in a file. -/
  | ask (file : String) (question : Question)
  /-- The names of the builder methods of a property. -/
  | methods (property : String) (getter : Option String) (indented : Bool)
  deriving DecidableEq, Repr

/-- Why a run fails. -/
inductive CommandFault where
  | notEnoughArguments
  | unknownOption (option : String)
  | missingValue (option : String)
  | unknownCommand (command : String)
  /-- A command lacks an option; the description tells what its value is. -/
  | missingOption (command option description : String)
  | badProperty (name : String)
  /-- A failure on a document, with the text of it where it was read. -/
  | failure (cause : Failure) (text : Option String)
  deriving DecidableEq, Repr

/-- The options of a request. A later option overrides an earlier one. -/
structure Options where
  type : Option String := none
  name : Option String := none
  returns : Option String := none
  getter : Option String := none
  indented : Bool := false
  deriving DecidableEq, Repr

/-- The option of a word that takes a value, as a setter. -/
def Options.setter? : String → Option (Options → String → Options)
  | "--type" => some fun o v => { o with type := some v }
  | "--name" => some fun o v => { o with name := some v }
  | "--returns" => some fun o v => { o with returns := some v }
  | "--getter" => some fun o v => { o with getter := some v }
  | _ => none

/-- Reads options. -/
def Options.ofArgs (o : Options) : List String → Except CommandFault Options
  | [] => .ok o
  | [word] =>
    if word = "--pretty" then .ok { o with indented := true }
    else match Options.setter? word with
      | some _ => .error (.missingValue word)
      | none => .error (.unknownOption word)
  | word :: value :: rest =>
    if word = "--pretty" then Options.ofArgs { o with indented := true } (value :: rest)
    else match Options.setter? word with
      | some set => Options.ofArgs (set o value) rest
      | none => .error (.unknownOption word)

/-- An option that a command cannot do without. -/
def needed (command option description : String) : Option String → Except CommandFault String
  | some value => .ok value
  | none => .error (.missingOption command option description)

/-- Reads the arguments of a run. -/
def Request.ofArgs : List String → Except CommandFault Request
  | command :: subject :: rest => do
    let options ← Options.ofArgs {} rest
    match command with
    | "plan" =>
      let type ← needed command "--type" "qualified name" options.type
      return .ask subject (.plan type options.indented)
    | "factory" =>
      let type ← needed command "--type" "qualified name" options.type
      return .ask subject (.factory type)
    | "pick-name" =>
      let type ← needed command "--type" "qualified name" options.type
      let name ← needed command "--name" "preferred name" options.name
      let returns ← needed command "--returns" "type" options.returns
      return .ask subject (.pickName type name returns)
    | "methods" => return .methods subject options.getter options.indented
    | _ => .error (.unknownCommand command)
  | _ => .error .notEnoughArguments

/-- The file that a request needs. -/
def Request.file? : Request → Option String
  | ask file _ => some file
  | methods _ _ _ => none

/-! ### Wording -/

/-- The place where a text ends, as a message shows it: the number of its line and the number of
bytes in that line. -/
def endPlace (text : String) : String :=
  let cs := text.toList
  let line := cs.count '\n' + 1
  let column := byteCount (cs.reverse.takeWhile (· != '\n'))
  " at line " ++ toString line ++ " column " ++ toString column

/-- How a message shows the place of a fault in a JSON text. The reader of such texts keeps no
places, so this may be any text. -/
abbrev Locate := Json.Fault → String → String

/-- Shows the place of a fault where it is the end of the text. -/
def locateEnd : Locate := fun fault text => if fault.isEarlyEnd then endPlace text else ""

/-- The wording of a fault. -/
def CommandFault.message (locate : Locate) : CommandFault → String
  | notEnoughArguments => "not enough arguments"
  | unknownOption option => "unknown option '" ++ option ++ "'"
  | missingValue option => "missing value for " ++ option
  | unknownCommand command => "unknown command '" ++ command ++ "'"
  | missingOption command option description =>
    command ++ " requires " ++ option ++ " <" ++ description ++ ">"
  | badProperty name => "'" ++ name ++ "' is not a valid property name"
  | failure (.json fault) (some text) =>
    (Failure.json fault).message ++ locate fault text
  | failure cause _ => cause.message

/-- How the commands are used. -/
def usage : String :=
  "usage:\n" ++
  "  valuegen plan <model.json> --type <value type> [--pretty]\n" ++
  "  valuegen factory <model.json> --type <builder type>\n" ++
  "  valuegen pick-name <model.json> --type <target type> --name <name> --returns <type>\n" ++
  "  valuegen methods <property> [--getter <name>] [--pretty]\n" ++
  "\n" ++
  "set RUST_LOG=valuegen=debug to trace naming and factory decisions.\n"

/-! ### Answers -/

/-- What an answer says: lines of warning and the text that was asked for. -/
structure Answer where
  warnings : List String
  text : String
  deriving DecidableEq, Repr

/-- The layout that a request asks for. -/
def layoutOf (indented : Bool) : Json.Layout := if indented then .indented else .compact

/-- A file, by its bytes, or by the error that the system gives when it is read. -/
abbrev FileContent := Except SystemError ByteArray

/-- The text of a file. -/
def textOf (file : FileContent) : Except CommandFault String :=
  match file with
  | .error error => .error (.failure (.file (.system error)) none)
  | .ok bytes =>
    match String.fromUTF8? bytes with
    | some text => .ok text
    | none => .error (.failure (.file .notText) none)

/-- The answer to a question about a loaded document. -/
def Question.answer (loaded : Loaded) : Question → Except Failure Answer
  | plan type indented => do
    let p ← loaded.catalog.plan loaded.preferences type
    return ⟨p.warnings, p.write (layoutOf indented)⟩
  | factory type =>
    match loaded.catalog.find? type, loaded.catalog.creation? type with
    | some d, some way =>
      return ⟨[], way.describe ++ ": " ++ loaded.catalog.newBuilder way d.declaredType⟩
    | _, _ => return ⟨[], "none"⟩
  | pickName type name returns => do
    let (target, result) ← loaded.catalog.pickTypes type returns
    let picked := loaded.catalog.pickName target result name
    return ⟨[], picked.name ++ " " ++ picked.visibility.word⟩

/-- The answer to a question about the text of a document. -/
def Question.answerText (q : Question) (text : String) : Except Failure Answer := do
  q.answer (← loadDocument text)

/-- The names of the builder methods of a property. -/
def answerMethods (property : String) (getter : Option String) (indented : Bool) :
    Except CommandFault Answer :=
  if isIdentifier property then
    let p := Property.ofName property (getter.getD property) .object
    .ok ⟨[], p.methodNames.toJson.write (layoutOf indented)⟩
  else .error (.badProperty property)

/-- The answer to a request. -/
def Request.answer (disk : String → FileContent) : Request → Except CommandFault Answer
  | ask file question => do
    let text ← textOf (disk file)
    (question.answerText text).mapError (.failure · (some text))
  | methods property getter indented => answerMethods property getter indented

/-! ### Runs -/

/-- What a run writes and the code that it ends with. -/
structure Outcome where
  code : UInt32
  stdout : String
  stderr : String
  deriving DecidableEq, Repr

/-- What a run with an answer writes. -/
def Outcome.ofAnswer (a : Answer) : Outcome :=
  ⟨0, a.text ++ "\n", String.join (a.warnings.map fun w => "warning: " ++ w ++ "\n")⟩

/-- What a run without an answer writes. -/
def Outcome.ofFault (locate : Locate) (fault : CommandFault) : Outcome :=
  ⟨1, "", fault.message locate ++ "\n" ++ usage⟩

/-- The answer to arguments. -/
def answerArgs (disk : String → FileContent) (args : List String) : Except CommandFault Answer := do
  (← Request.ofArgs args).answer disk

/-- A run with arguments on a disk. -/
def runCommand (disk : String → FileContent) (args : List String) (locate : Locate := locateEnd) :
    Outcome :=
  match answerArgs disk args with
  | .ok a => .ofAnswer a
  | .error fault => .ofFault locate fault

end BuilderPlanner
