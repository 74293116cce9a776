import BuilderPlanner.Decimal.Shortest
import BuilderPlanner.Unicode.Graphic

/-!
# Faults of JSON texts

What can be wrong with a text that should hold a JSON value of a given shape, and the wording of it.

* `decimalText`, `shownText` — how messages show numbers and strings;
* `Found` — a value where another kind of value is wanted;
* `Fault` — the causes, and `Fault.message` — their texts;
* `Fault.isEarlyEnd` — the faults of a text that ends too early.
-/

namespace BuilderPlanner.Json

/-! ### Numbers in messages -/

/-- The decimal digits of a number. -/
def digitsOf (n : Nat) : List Char := Nat.toDigits 10 n

/-- The text of a decimal: positional when the exponent of its first digit is from -5 to 15, with at
least one digit on both sides of the point; otherwise with a signed exponent. -/
def decimalText (d : Decimal) : String :=
  let digits := (digitsOf d.digits).reverse.dropWhile (· == '0') |>.reverse
  let first := d.exponent + ((digitsOf d.digits).length - 1 : Nat)
  if 0 ≤ first ∧ first < 16 then
    let whole := digits.take (first.toNat + 1)
    let part := digits.drop (first.toNat + 1)
    String.ofList (whole ++ List.replicate (first.toNat + 1 - whole.length) '0' ++ ['.'] ++
      if part = [] then ['0'] else part)
  else if -5 ≤ first ∧ first < 0 then
    String.ofList (['0', '.'] ++ List.replicate ((-first).toNat - 1) '0' ++ digits)
  else
    String.ofList (digits.take 1 ++ (if digits.length ≤ 1 then [] else '.' :: digits.drop 1) ++
      ['e', if first < 0 then '-' else '+'] ++ digitsOf first.natAbs)

/-- The text of a finite floating point number, given by its bits: its shortest decimal. -/
def floatText (bits : UInt64) : String :=
  (if bits.toNat < 0x8000000000000000 then "" else "-") ++
    match Binary.ofBits? bits with
    | some b => decimalText b.shortest
    | none => "0.0"

/-! ### Strings in messages -/

/-- How a message shows a character of a string. The marks and blanks with a short escape are written
with it, other characters without a shape of their own by their code in hexadecimal digits. -/
def shownChar (c : Char) : List Char :=
  match c with
  | '"' => ['\\', '"']
  | '\\' => ['\\', '\\']
  | '\x00' => ['\\', '0']
  | '\n' => ['\\', 'n']
  | '\r' => ['\\', 'r']
  | '\t' => ['\\', 't']
  | c =>
    if Unicode.isPlain c then [c] else ['\\', 'u', '{'] ++ Nat.toDigits 16 c.toNat ++ ['}']

/-- How a message shows a string, between quotation marks. -/
def shownText (s : String) : String := String.ofList ('"' :: (s.toList.flatMap shownChar ++ ['"']))

/-! ### Causes -/

/-- A value that was found where another kind of value is wanted. -/
inductive Found where
  | null
  | bool (value : Bool)
  | integer (value : Int)
  | float (bits : UInt64)
  | string (value : String)
  | array
  | object
  deriving DecidableEq, Repr

/-- How a message names a value. -/
def Found.describe : Found → String
  | null => "null"
  | bool value => "boolean `" ++ (if value then "true" else "false") ++ "`"
  | integer value => "integer `" ++ toString value ++ "`"
  | float bits => "floating point `" ++ floatText bits ++ "`"
  | string value => "string " ++ shownText value
  | array => "sequence"
  | object => "map"

/-- What is wrong with a text. -/
inductive Fault where
  /-- The text ends inside an array. -/
  | endInArray
  /-- The text ends inside an object. -/
  | endInObject
  /-- The text ends inside a string. -/
  | endInString
  /-- The text ends where a value is due or inside a word or number. -/
  | endInValue
  | expectedValue
  | expectedWord
  | expectedColon
  | expectedItemEnd
  | expectedMemberEnd
  | trailingComma
  | keyNotString
  | trailingText
  | badNumber
  | numberOutOfRange
  | badEscape
  | endOfHexEscape
  | loneSurrogate
  | controlCharacter
  /-- A value of another kind than the wanted one. -/
  | mismatch (found : Found) (wanted : String)
  /-- An array that stands for a record of `size` fields and ends before a field without default. -/
  | tooShort (length : Nat) (title : String) (size : Nat)
  | missingField (name : String)
  | duplicateField (name : String)
  /-- A word that is none of the `known` ones. -/
  | unknownVariant (word : String) (known : List String)
  deriving DecidableEq, Repr

/-- A list of words as a message shows it. -/
def quotedWords : List String → String
  | [] => "no variants"
  | [a] => "`" ++ a ++ "`"
  | [a, b] => "`" ++ a ++ "` or `" ++ b ++ "`"
  | words => "one of " ++ ", ".intercalate (words.map fun w => "`" ++ w ++ "`")

namespace Fault

/-- The wording of a fault. -/
def message : Fault → String
  | endInArray => "EOF while parsing a list"
  | endInObject => "EOF while parsing an object"
  | endInString => "EOF while parsing a string"
  | endInValue => "EOF while parsing a value"
  | expectedValue => "expected value"
  | expectedWord => "expected ident"
  | expectedColon => "expected `:`"
  | expectedItemEnd => "expected `,` or `]`"
  | expectedMemberEnd => "expected `,` or `\x7d`"
  | trailingComma => "trailing comma"
  | keyNotString => "key must be a string"
  | trailingText => "trailing characters"
  | badNumber => "invalid number"
  | numberOutOfRange => "number out of range"
  | badEscape => "invalid escape"
  | endOfHexEscape => "unexpected end of hex escape"
  | loneSurrogate => "lone leading surrogate in hex escape"
  | controlCharacter => "control character (\\u0000-\\u001F) found while parsing a string"
  | mismatch found wanted => "invalid type: " ++ found.describe ++ ", expected " ++ wanted
  | tooShort length title size =>
    "invalid length " ++ toString length ++ ", expected struct " ++ title ++ " with " ++
      toString size ++ " element" ++ if size = 1 then "" else "s"
  | missingField name => "missing field `" ++ name ++ "`"
  | duplicateField name => "duplicate field `" ++ name ++ "`"
  | unknownVariant word known =>
    "unknown variant `" ++ word ++ "`, expected " ++ quotedWords known

/-- Whether the fault is that the text ends too early. -/
def isEarlyEnd : Fault → Bool
  | endInArray | endInObject | endInString | endInValue => true
  | _ => false

end Fault

end BuilderPlanner.Json
