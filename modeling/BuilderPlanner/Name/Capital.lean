import BuilderPlanner.Unicode.CharClass
import BuilderPlanner.Unicode.LetterCase

/-!
# The first letter of a name

* `capitalize` — the first character in upper case;
* `decapitalize` — the first character in lower case, except that a name which begins with two
  capitals is an acronym and stays as it is.
-/

namespace BuilderPlanner

/-- Puts the first character in upper case. It may become several characters. -/
def capitalize (name : String) : String :=
  match name.toList with
  | [] => ""
  | c :: rest => String.ofList (Unicode.toUpper c ++ rest)

/-- Whether a name begins with two capitals. -/
def beginsWithAcronym : List Char → Bool
  | c :: d :: _ => Unicode.isUppercase c && Unicode.isUppercase d
  | _ => false

/-- Puts the first character in lower case, unless the name begins with an acronym. -/
def decapitalize (name : String) : String :=
  if beginsWithAcronym name.toList then name
  else match name.toList with
    | [] => ""
    | c :: rest => String.ofList (Unicode.toLower c ++ rest)

end BuilderPlanner
