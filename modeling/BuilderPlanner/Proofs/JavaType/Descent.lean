import BuilderPlanner.JavaType.Reader

/-!
# Reading types by recursive descent

The grammar of types can be read by calls that call one another, one for each part of a type. They
share a place among the tokens, at which they look by its number, and each moves it on by itself.
Here nothing is taken for granted about them. A call that looks at a place without a token breaks
off. A call that calls itself, or goes round a loop, goes one step deeper, and it is given a depth
beyond which it must not go; so a call that does not end has no result, whatever the depth.

* `Cursor` — the place, with all places at which a call has looked so far;
* `Call` — calls, with their results and the ways to have none;
* `current`, `consumeIf`, `expect`, `expectWord`, `refuse` — the calls that look at a token;
* `name`, `annotations`, `brackets`, `type`, `arguments`, `limit` — the calls for the parts of a
  type;
* `read` — reads a list of tokens as a type.
-/

namespace BuilderPlanner

namespace JavaType

namespace Descent

/-! ### Calls -/

/-- The place of the next token, and the places of all looks at a token, the last one first. -/
structure Cursor where
  place : Nat
  looked : List Nat
  deriving DecidableEq, Repr

/-- Why a call breaks off. -/
inductive Halt where
  /-- There is no token at the place. -/
  | outside
  | fault (fault : TypeFault)
  deriving DecidableEq, Repr

/-- A call. It moves the cursor, and it has a result, breaks off, or goes too deep. -/
abbrev Call (α : Type) := ExceptT Halt (StateT Cursor Option) α

/-- A call that goes deeper than it may. -/
def tooDeep {α : Type} : Call α := fun _ => none

/-- The cursor after a look at its token. -/
def Cursor.look (s : Cursor) : Cursor := { s with looked := s.place :: s.looked }

/-- The cursor at the next place. -/
def Cursor.next (s : Cursor) : Cursor := { s with place := s.place + 1 }

/-- The cursor with which a reading begins. -/
def Cursor.first : Cursor := ⟨0, []⟩

variable (tokens : List Token)

/-- Looks at the token at the place of the cursor. No other call looks at tokens by itself. -/
def current : Call Token := fun s =>
  match tokens[s.place]? with
  | some token => some (.ok token, s.look)
  | none => some (.error .outside, s.look)

/-- Moves on to the next place. -/
def advance : Call Unit := fun s => some (.ok (), s.next)

/-- Breaks off because the token at hand does not fit. -/
def refuse {α : Type} (expected : Expectation) : Call α := do
  throw (.fault (.unfit expected (← current tokens).offset))

/-- Moves on if the token at hand is of the kind `mark`. -/
def consumeIf (mark : TokenKind) : Call Bool := do
  if (← current tokens).kind = mark then
    advance
    return true
  else
    return false

/-- Moves on behind a token of the kind `mark`, which has to be at hand. -/
def expect (mark : TokenKind) (expected : Expectation) : Call Unit := do
  if ← consumeIf tokens mark then
    return
  else
    refuse tokens expected

/-- Moves on behind a word, which has to be at hand. -/
def expectWord (expected : Expectation) : Call String := do
  match (← current tokens).kind with
  | .word w =>
    advance
    return w
  | _ => refuse tokens expected

/-! ### Parts of a type -/

/-- The name that begins with the given words. -/
def nameFrom : Nat → List String → Call String
  | 0, _ => tooDeep
  | depth + 1, words => do
    if ← consumeIf tokens .dot then
      nameFrom depth (words ++ [← expectWord tokens .wordAfterDot])
    else
      return ".".intercalate words

/-- A name. -/
def name (depth : Nat) : Call String := do
  nameFrom tokens depth [← expectWord tokens .typeName]

/-- The annotations before a type. They are dropped. -/
def annotations : Nat → Call Unit
  | 0 => tooDeep
  | depth + 1 => do
    if ← consumeIf tokens .atSign then
      let _ ← name tokens depth
      annotations depth
    else
      return

/-- The brackets behind a type. -/
def brackets : Nat → JavaType → Call JavaType
  | 0, _ => tooDeep
  | depth + 1, t => do
    if ← consumeIf tokens .openBracket then
      expect tokens .closeBracket .closingBracket
      brackets depth (.array t)
    else
      return t

/-- The side on which a wildcard is bounded, if the token behind its sign introduces a limit. -/
def keyword? : TokenKind → Option Bound
  | .word "extends" => some .upper
  | .word "super" => some .lower
  | _ => none

mutual

/-- A type. -/
def type : Nat → Call JavaType
  | 0 => tooDeep
  | depth + 1 => do
    annotations tokens (depth + 1)
    if ← consumeIf tokens .question then
      limit depth
    else
      let n ← name tokens (depth + 1)
      if ← consumeIf tokens .less then
        let args ← arguments depth []
        brackets tokens (depth + 1) (.named n args)
      else
        brackets tokens (depth + 1) (.plain n)

/-- The type arguments that begin with those in `before`, and the mark that closes them. -/
def arguments : Nat → List JavaType → Call (List JavaType)
  | 0, _ => tooDeep
  | depth + 1, before => do
    let t ← type depth
    if ← consumeIf tokens .comma then
      arguments depth (before ++ [t])
    else
      expect tokens .greater .endOfArguments
      return before ++ [t]

/-- What is behind the sign of a wildcard. -/
def limit : Nat → Call JavaType
  | 0 => tooDeep
  | depth + 1 => do
    match keyword? (← current tokens).kind with
    | some b =>
      advance
      return .bounded b (← type depth)
    | none => return .wildcard

end

/-- Reads tokens as a type, up to the mark of the end. -/
def read (depth : Nat) : Call JavaType := do
  let t ← type tokens depth
  if (← current tokens).kind = .finish then
    return t
  else
    refuse tokens .endOfText

end Descent

end JavaType

end BuilderPlanner
