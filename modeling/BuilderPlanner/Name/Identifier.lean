import BuilderPlanner.Unicode.CharClass

/-!
# Identifiers and qualified names

* `isIdentifier` — a name that a declaration may use: letters, underscores and dollar signs, with
  number characters after the first, and none of the reserved words;
* `isQualified` — identifiers joined by dots;
* `outerName?`, `simpleName` — what stands before and after the last dot of a name.
-/

namespace BuilderPlanner

/-! ### Identifiers -/

/-- The reserved words of the language, with the words for truth values and for no object. -/
def reservedWords : List String :=
  ["abstract", "assert", "boolean", "break", "byte", "case", "catch", "char", "class", "const",
    "continue", "default", "do", "double", "else", "enum", "extends", "final", "finally", "float",
    "for", "goto", "if", "implements", "import", "instanceof", "int", "interface", "long",
    "native", "new", "package", "private", "protected", "public", "return", "short", "static",
    "strictfp", "super", "switch", "synchronized", "this", "throw", "throws", "transient", "try",
    "void", "volatile", "while", "true", "false", "null"]

/-- A character that may begin an identifier. -/
def beginsIdentifier (c : Char) : Bool := Unicode.isLetter c || c == '_' || c == '$'

/-- A character that may continue an identifier. -/
def continuesIdentifier (c : Char) : Bool := beginsIdentifier c || Unicode.isNumber c

/-- The shape of an identifier, reserved words included. -/
def identifierShaped : List Char → Bool
  | [] => false
  | c :: rest => beginsIdentifier c && rest.all continuesIdentifier

/-- Whether a name is an identifier. -/
def isIdentifier (name : String) : Bool :=
  identifierShaped name.toList && !reservedWords.contains name

/-! ### Qualified names -/

/-- The parts of a text between its dots. -/
def segments : List Char → List (List Char)
  | [] => [[]]
  | c :: rest =>
    if c = '.' then [] :: segments rest
    else match segments rest with
      | [] => [[c]]
      | s :: more => (c :: s) :: more

/-- Whether a name consists of identifiers joined by dots. -/
def isQualified (name : String) : Bool :=
  (segments name.toList).all fun s => isIdentifier (String.ofList s)

/-- What stands before the last dot. -/
def outerName? (name : String) : Option String :=
  match name.toList.reverse.dropWhile (· != '.') with
  | [] => none
  | _ :: before => some (String.ofList before.reverse)

/-- What stands after the last dot. -/
def simpleName (name : String) : String :=
  String.ofList (name.toList.reverse.takeWhile (· != '.')).reverse

end BuilderPlanner
