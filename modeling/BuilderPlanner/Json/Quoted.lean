import BuilderPlanner.Json.Fault
import BuilderPlanner.Unicode.ByteCount

/-!
# Strings of JSON texts

A string is written between quotation marks, with escapes for some characters. An escape with four
hexadecimal digits names a unit of UTF-16, and two such units name a character beyond U+FFFF.

* `quotedParts` — cuts a string into characters and units;
* `joinParts` — joins the units of a pair and finds units without partner;
* `readQuoted` — both, for the text after the opening mark;
* `writeQuoted` — writes a string. Only quotation marks, backslashes and characters below U+0020
  are escaped.

A reader that skips a string does not look at its units, so a unit without partner is a fault of
its own beside what else may be wrong with the string.
-/

namespace BuilderPlanner.Json

/-! ### Hexadecimal digits -/

/-- The value of a hexadecimal digit. -/
def hexValue? (c : Char) : Option Nat :=
  if '0' ≤ c ∧ c ≤ '9' then some (c.toNat - '0'.toNat)
  else if 'a' ≤ c ∧ c ≤ 'f' then some (c.toNat - 'a'.toNat + 10)
  else if 'A' ≤ c ∧ c ≤ 'F' then some (c.toNat - 'A'.toNat + 10)
  else none

/-- The lower case hexadecimal digit of a value below 16. -/
def hexDigit (n : Nat) : Char := if n < 10 then Char.ofNat (48 + n) else Char.ofNat (87 + n)

/-! ### Reading -/

/-- A piece of a written string. -/
inductive Part where
  /-- A character, written as itself or with a short escape. -/
  | char (c : Char)
  /-- A unit of UTF-16, written with four digits. -/
  | unit (n : Nat)
  deriving DecidableEq, Repr

/-- How a written string ends. -/
inductive Ending where
  | closed
  /-- The text ends first. -/
  | textEnd
  /-- A character below U+0020 stands in it. -/
  | control
  /-- A backslash stands before a character that makes no escape. -/
  | badEscape
  /-- An escape lacks one of its four digits. -/
  | badDigits
  deriving DecidableEq, Repr

/-- What is wrong with a string that ends in this way, if no unit lacks its partner. -/
def Ending.fault? : Ending → Option Fault
  | closed => none
  | textEnd => some .endInString
  | control => some .controlCharacter
  | badEscape => some .badEscape
  | badDigits => some .badEscape

/-- The character that a short escape stands for. -/
def shortEscape? : Char → Option Char
  | '"' => some '"'
  | '\\' => some '\\'
  | '/' => some '/'
  | 'b' => some '\x08'
  | 'f' => some '\x0c'
  | 'n' => some '\n'
  | 'r' => some '\r'
  | 't' => some '\t'
  | _ => none

/-- The unit that four digits name. -/
def unitOf? (a b c d : Char) : Option Nat :=
  match hexValue? a, hexValue? b, hexValue? c, hexValue? d with
  | some a, some b, some c, some d => some (((a * 16 + b) * 16 + c) * 16 + d)
  | _, _, _, _ => none

/-- How a string ends that breaks off where the four digits of an escape are due: a text of less
than four bytes ends too early. -/
def endingInDigits (rest : List Char) : Ending :=
  if byteCount rest < 4 then .textEnd else .badDigits

/-- Puts a piece in front of the others. -/
def consPart (p : Part) (tail : List Part × Ending × List Char) : List Part × Ending × List Char :=
  (p :: tail.1, tail.2)

/-- Cuts a written string into its pieces, and gives the way it ends and the text after it. -/
def quotedParts : List Char → List Part × Ending × List Char
  | [] => ([], .textEnd, [])
  | c :: rest =>
    if c = '"' then ([], .closed, rest)
    else if c = '\\' then
      match rest with
      | [] => ([], .textEnd, [])
      | e :: rest =>
        if e = 'u' then
          match rest with
          | a :: b :: c :: d :: rest =>
            match unitOf? a b c d with
            | some n => consPart (.unit n) (quotedParts rest)
            | none => ([], .badDigits, [])
          | short => ([], endingInDigits short, [])
        else
          match shortEscape? e with
          | some d => consPart (.char d) (quotedParts rest)
          | none => ([], .badEscape, [])
    else if c.toNat < 0x20 then ([], .control, [])
    else consPart (.char c) (quotedParts rest)

theorem length_quotedParts (cs : List Char) : (quotedParts cs).2.2.length ≤ cs.length := by
  fun_induction quotedParts cs <;> simp only [consPart, List.length_cons, List.length_nil] at * <;>
    omega

/-- A unit that begins a pair. -/
def isHighUnit (n : Nat) : Bool := 0xD800 ≤ n && n < 0xDC00

/-- A unit that ends a pair. -/
def isLowUnit (n : Nat) : Bool := 0xDC00 ≤ n && n < 0xE000

/-- The character of a pair of units. -/
def pairedChar (high low : Nat) : Char :=
  Char.ofNat (0x10000 + (high - 0xD800) * 0x400 + (low - 0xDC00))

/-- What is wrong when a string ends after a unit that begins a pair. -/
def Ending.faultInPair : Ending → Fault
  | textEnd => .endInString
  | badDigits => .badEscape
  | _ => .endOfHexEscape

/-- Joins the pieces of a string that ends in a given way. -/
def joinParts (ending : Ending) : List Part → Except Fault (List Char)
  | [] => match ending.fault? with
    | none => .ok []
    | some f => .error f
  | .char c :: rest => (c :: ·) <$> joinParts ending rest
  | .unit n :: rest =>
    if isLowUnit n then .error .loneSurrogate
    else if isHighUnit n then
      match rest with
      | [] => .error ending.faultInPair
      | .char _ :: _ => .error .endOfHexEscape
      | .unit m :: rest =>
        if isLowUnit m then (pairedChar n m :: ·) <$> joinParts ending rest
        else .error .loneSurrogate
    else (Char.ofNat n :: ·) <$> joinParts ending rest

/-- A string as read. -/
inductive Quoted where
  | text (value : String)
  /-- A complete string with a fault in its units. -/
  | unpaired (fault : Fault)
  deriving DecidableEq, Repr

/-- The outcome of reading a string. -/
inductive QuotedOutcome where
  | complete (string : Quoted) (rest : List Char)
  /-- The string has no end. A reader that wants it may find another fault than one that skips it. -/
  | broken (wanted ignored : Fault)
  deriving DecidableEq, Repr

/-- Reads a string after its opening mark. -/
def readQuoted (cs : List Char) : QuotedOutcome :=
  let (parts, ending, rest) := quotedParts cs
  match ending.fault?, joinParts ending parts with
  | none, .ok value => .complete (.text (String.ofList value)) rest
  | none, .error f => .complete (.unpaired f) rest
  | some ignored, .error wanted => .broken wanted ignored
  | some ignored, .ok _ => .broken ignored ignored

theorem length_of_readQuoted {cs rest : List Char} {q : Quoted}
    (h : readQuoted cs = .complete q rest) : rest.length ≤ cs.length := by
  have hl := length_quotedParts cs
  unfold readQuoted at h
  split at h
  rename_i hq
  rw [hq] at hl
  split at h <;> simp only [QuotedOutcome.complete.injEq, reduceCtorEq] at h
  · rw [← h.2]
    exact hl
  · rw [← h.2]
    exact hl

/-! ### Writing -/

/-- How a character is written inside a string. -/
def writeChar (c : Char) : List Char :=
  match c with
  | '"' => ['\\', '"']
  | '\\' => ['\\', '\\']
  | '\x08' => ['\\', 'b']
  | '\x0c' => ['\\', 'f']
  | '\n' => ['\\', 'n']
  | '\r' => ['\\', 'r']
  | '\t' => ['\\', 't']
  | c =>
    if c.toNat < 0x20 then
      ['\\', 'u', '0', '0', hexDigit (c.toNat / 16), hexDigit (c.toNat % 16)]
    else [c]

/-- Writes a string with its marks. -/
def writeQuoted (s : String) : List Char := '"' :: (s.toList.flatMap writeChar ++ ['"'])

end BuilderPlanner.Json
