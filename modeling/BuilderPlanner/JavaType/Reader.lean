import BuilderPlanner.JavaType.Basic
import BuilderPlanner.JavaType.Token

/-!
# Reading types

A type is an annotated name with type arguments and array brackets, or a wildcard:

    type ::= ('@' name)* ( '?' [('extends' | 'super') type]
                         | name ['<' type (',' type)* '>'] ('[' ']')* )
    name ::= word ('.' word)*

Annotations carry no meaning and are dropped. Brackets after a limit belong to the limit.

The reader looks at one token at a time. What it still has to do is a `Phase`, which says where it
stands inside the innermost type, and a stack of `Frame`s, one for each type around that one.

* `JavaType.step` — what one token does;
* `JavaType.ofTokens` — reads a list of tokens and stops at the first that does not fit;
* `JavaType.ofText` — reads a text.
-/

namespace BuilderPlanner

/-- What the reader waits for when it meets a token that does not fit. -/
inductive Expectation where
  | typeName
  | wordAfterDot
  | endOfArguments
  | closingBracket
  | endOfText
  /-- Any token at all: the list of tokens ended before the mark of the end. -/
  | token
  deriving DecidableEq, Repr

/-- Why a text is not a type. -/
inductive TypeFault where
  /-- A character that belongs to no token. -/
  | stray (char : StrayChar)
  /-- A token that does not fit, by the place of its first byte. -/
  | unfit (expected : Expectation) (offset : Nat)
  deriving DecidableEq, Repr

namespace JavaType

/-- A type around the one that is being read. -/
inductive Frame where
  /-- The type arguments of `name`; those already read come last first. -/
  | argument (name : String) (before : List JavaType)
  /-- The limit of a wildcard. -/
  | limit (bound : Bound)
  deriving DecidableEq, Repr

/-- A position inside the innermost type. -/
inductive Phase where
  /-- Before a type. -/
  | start
  /-- After the sign of an annotation. -/
  | annotating
  /-- After a dot in the name of an annotation. -/
  | annotatingDot
  /-- After a word in the name of an annotation. -/
  | annotated
  /-- After a word in the name of a type. -/
  | name (sofar : String)
  /-- After a dot in the name of a type. -/
  | nameDot (sofar : String)
  /-- After the sign of a wildcard. -/
  | wildcard
  /-- After a type that brackets may follow. -/
  | suffix (element : JavaType)
  /-- After an opening bracket. -/
  | bracket (element : JavaType)
  deriving DecidableEq, Repr

/-- What a token does to the reader. -/
inductive Step where
  | next (phase : Phase) (stack : List Frame)
  | accept (type : JavaType)
  | refuse (expected : Expectation)
  deriving DecidableEq, Repr

/-- A type is complete and the token `kind` follows it. -/
def complete (kind : TokenKind) : JavaType → List Frame → Step
  | t, .limit b :: stack => complete kind (.bounded b t) stack
  | t, .argument name before :: stack =>
    match kind with
    | .comma => .next .start (.argument name (t :: before) :: stack)
    | .greater => .next (.suffix (.named name (before.reverse ++ [t]))) stack
    | _ => .refuse .endOfArguments
  | t, [] =>
    match kind with
    | .finish => .accept t
    | _ => .refuse .endOfText

/-- A token where a type begins. -/
def begin (kind : TokenKind) (stack : List Frame) : Step :=
  match kind with
  | .atSign => .next .annotating stack
  | .question => .next .wildcard stack
  | .word w => .next (.name w) stack
  | _ => .refuse .typeName

/-- A token after a type that brackets may follow. -/
def extend (kind : TokenKind) (t : JavaType) (stack : List Frame) : Step :=
  match kind with
  | .openBracket => .next (.bracket t) stack
  | _ => complete kind t stack

/-- What the token `kind` does in each phase. -/
def step (phase : Phase) (stack : List Frame) (kind : TokenKind) : Step :=
  match phase, kind with
  | .start, _ => begin kind stack
  | .annotating, .word _ => .next .annotated stack
  | .annotating, _ => .refuse .typeName
  | .annotatingDot, .word _ => .next .annotated stack
  | .annotatingDot, _ => .refuse .wordAfterDot
  | .annotated, .dot => .next .annotatingDot stack
  | .annotated, _ => begin kind stack
  | .name n, .dot => .next (.nameDot n) stack
  | .name n, .less => .next .start (.argument n [] :: stack)
  | .name n, _ => extend kind (plain n) stack
  | .nameDot n, .word w => .next (.name (n ++ "." ++ w)) stack
  | .nameDot _, _ => .refuse .wordAfterDot
  | .wildcard, .word "extends" => .next .start (.limit .upper :: stack)
  | .wildcard, .word "super" => .next .start (.limit .lower :: stack)
  | .wildcard, _ => complete kind .wildcard stack
  | .suffix t, _ => extend kind t stack
  | .bracket t, .closeBracket => .next (.suffix (.array t)) stack
  | .bracket _, _ => .refuse .closingBracket

/-- Reads on from a position; `offset` is the place of the last token before. -/
def run (phase : Phase) (stack : List Frame) (offset : Nat) :
    List Token → Except TypeFault JavaType
  | [] => .error (.unfit .token offset)
  | token :: rest =>
    match step phase stack token.kind with
    | .next phase stack => run phase stack token.offset rest
    | .accept t => .ok t
    | .refuse expected => .error (.unfit expected token.offset)

/-- Reads the tokens of a type. -/
def ofTokens (tokens : List Token) : Except TypeFault JavaType := run .start [] 0 tokens

/-- Reads the text of a type. Every name is the name of a class. -/
def ofText (text : String) : Except TypeFault JavaType :=
  match Token.ofText text with
  | .ok tokens => ofTokens tokens
  | .error char => .error (.stray char)

/-- Reads the text of a type in which the names in `scope` are variables. -/
def ofTextIn (scope : List String) (text : String) : Except TypeFault JavaType :=
  (bind scope) <$> ofText text

end JavaType

end BuilderPlanner
