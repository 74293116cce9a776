import BuilderPlanner.Json.Quoted

/-!
# JSON values and their texts

The values that documents and plans are written as: records, arrays, strings and `null`.

* `Value` — the values; the members of an object keep their order;
* `Layout` — where a text has line ends and spaces: `Layout.compact` has none,
  `Layout.indented` puts each item and member on its own line, two spaces further in;
* `Value.write` — the text of a value in a layout.
-/

namespace BuilderPlanner.Json

/-- A value without numbers and truth values. -/
inductive Value where
  | null
  | string (value : String)
  | array (items : List Value)
  | object (members : List (String × Value))
  deriving Repr

instance : Inhabited Value := ⟨.null⟩

namespace Value

/-- An array of strings. -/
def strings (texts : List String) : Value := array (texts.map string)

/-- A string, or `null` for none. -/
def optional : Option String → Value
  | some text => string text
  | none => null

end Value

/-- The blanks between the parts of a text. -/
structure Layout where
  /-- What stands before an item or member at a depth, and before the mark that closes. -/
  lineBreak : Nat → List Char
  /-- What stands after a colon. -/
  afterColon : List Char

namespace Layout

/-- No blanks at all. -/
def compact : Layout := ⟨fun _ => [], []⟩

/-- Every item and member on a line of its own. -/
def indented : Layout := ⟨fun depth => '\n' :: List.replicate (2 * depth) ' ', [' ']⟩

end Layout

namespace Value

mutual

/-- The text of a value at a depth. Arrays and objects without content stay on one line. -/
def writeAt (layout : Layout) (depth : Nat) : Value → List Char
  | null => ['n', 'u', 'l', 'l']
  | string value => writeQuoted value
  | array [] => ['[', ']']
  | array (v :: rest) =>
    '[' :: (layout.lineBreak (depth + 1) ++ v.writeAt layout (depth + 1) ++
      writeItems layout depth rest)
  | object [] => ['{', '}']
  | object ((key, v) :: rest) =>
    '{' :: (layout.lineBreak (depth + 1) ++ writeQuoted key ++ ':' :: layout.afterColon ++
      v.writeAt layout (depth + 1) ++ writeMembers layout depth rest)

/-- The items after the first, and the mark that closes. -/
def writeItems (layout : Layout) (depth : Nat) : List Value → List Char
  | [] => layout.lineBreak depth ++ [']']
  | v :: rest =>
    ',' :: (layout.lineBreak (depth + 1) ++ v.writeAt layout (depth + 1) ++
      writeItems layout depth rest)

/-- The members after the first, and the mark that closes. -/
def writeMembers (layout : Layout) (depth : Nat) : List (String × Value) → List Char
  | [] => layout.lineBreak depth ++ ['}']
  | (key, v) :: rest =>
    ',' :: (layout.lineBreak (depth + 1) ++ writeQuoted key ++ ':' :: layout.afterColon ++
      v.writeAt layout (depth + 1) ++ writeMembers layout depth rest)

end

/-- The text of a value. -/
def write (layout : Layout) (v : Value) : String := String.ofList (v.writeAt layout 0)

end Value

end BuilderPlanner.Json
