import BuilderPlanner.Unicode.ByteCount
import BuilderPlanner.Unicode.CharClass

/-!
# Tokens of type texts

The text of a type is cut into words, marks and a mark for its end. Blanks between tokens have no
meaning. A token carries the place where it begins, counted in bytes of the UTF-8 encoding.

* `Token` — a token and its place;
* `Token.ofText` — the tokens of a text, or the first character that belongs to none;
* `wordSplit` — a word is as long as possible.
-/

namespace BuilderPlanner

/-! ### Words -/

/-- A character that may begin a word: alphabetic, an underscore or a dollar sign. -/
def beginsWord (c : Char) : Bool := Unicode.isAlphabetic c || c == '_' || c == '$'

/-- A character that may continue a word: one that may begin it, or a number character. -/
def continuesWord (c : Char) : Bool := beginsWord c || Unicode.isNumber c

/-- The rest of the word at the front of a text, and what follows the word. -/
def wordSplit (cs : List Char) : List Char × List Char :=
  (cs.takeWhile continuesWord, cs.dropWhile continuesWord)

/-! ### Tokens -/

/-- The kinds of tokens. -/
inductive TokenKind where
  | word (text : String)
  | dot
  | comma
  | less
  | greater
  | openBracket
  | closeBracket
  | question
  | atSign
  /-- The end of the text. -/
  | finish
  deriving DecidableEq, Repr

/-- The spelling of a kind of token. -/
def TokenKind.spelling : TokenKind → String
  | word text => text
  | dot => "."
  | comma => ","
  | less => "<"
  | greater => ">"
  | openBracket => "["
  | closeBracket => "]"
  | question => "?"
  | atSign => "@"
  | finish => ""

/-- The kind of a token that is a single mark. -/
def TokenKind.ofMark? : Char → Option TokenKind
  | '.' => some dot
  | ',' => some comma
  | '<' => some less
  | '>' => some greater
  | '[' => some openBracket
  | ']' => some closeBracket
  | '?' => some question
  | '@' => some atSign
  | _ => none

/-- A token and the number of bytes before it. -/
structure Token where
  kind : TokenKind
  offset : Nat
  deriving DecidableEq, Repr

/-- A character that belongs to no token, and the number of bytes before it. -/
structure StrayChar where
  char : Char
  offset : Nat
  deriving DecidableEq, Repr

namespace Token

/-- The tokens of a text that begins at `offset`. -/
def scan (offset : Nat) : List Char → Except StrayChar (List Token)
  | [] => .ok [⟨.finish, offset⟩]
  | c :: rest =>
    if Unicode.isBlank c then
      scan (offset + c.utf8Size) rest
    else if let some kind := TokenKind.ofMark? c then
      (⟨kind, offset⟩ :: ·) <$> scan (offset + c.utf8Size) rest
    else if beginsWord c then
      let word := c :: (wordSplit rest).1
      (⟨.word (String.ofList word), offset⟩ :: ·) <$>
        scan (offset + byteCount word) (wordSplit rest).2
    else
      .error ⟨c, offset⟩
  termination_by cs => cs.length
  decreasing_by
    all_goals simp only [List.length_cons, wordSplit]
    · omega
    · omega
    · have := (List.dropWhile_sublist (p := continuesWord) (l := rest)).length_le
      omega

/-- The tokens of a text. The last one marks its end. -/
def ofText (text : String) : Except StrayChar (List Token) := scan 0 text.toList

end Token

end BuilderPlanner
