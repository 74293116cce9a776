/-!
# Kinds, modifiers and visibility

* `Kind` — classes and interfaces;
* `Modifier` — the modifiers that matter for names and for the making of builders;
* `Visibility` — who sees a member, and `Visibility.ofModifiers` — what the modifiers say about it.

Each of these comes with the table of its words.
-/

namespace BuilderPlanner

/-- The word of a value in a table of words. -/
def wordIn {α : Type} [DecidableEq α] (table : List (String × α)) (value : α) : String :=
  ((table.find? fun entry => entry.2 = value).map Prod.fst).getD ""

/-! ### Kinds -/

/-- The kinds of declared types. -/
inductive Kind where
  | classKind
  | interfaceKind
  deriving DecidableEq, Repr

namespace Kind

/-- The words for the kinds. -/
def words : List (String × Kind) := [("class", classKind), ("interface", interfaceKind)]

/-- The word for a kind. -/
def word : Kind → String := wordIn words

end Kind

/-! ### Modifiers -/

/-- The modifiers of types, methods and constructors. -/
inductive Modifier where
  | publicAccess
  | protectedAccess
  | privateAccess
  | isStatic
  | isAbstract
  | isFinal
  | isDefault
  deriving DecidableEq, Repr

namespace Modifier

/-- The words for the modifiers. -/
def words : List (String × Modifier) :=
  [("public", publicAccess), ("protected", protectedAccess), ("private", privateAccess),
    ("static", isStatic), ("abstract", isAbstract), ("final", isFinal), ("default", isDefault)]

/-- The word for a modifier. -/
def word : Modifier → String := wordIn words

/-- Whether a modifier says who sees a member. -/
def isAccess : Modifier → Bool
  | publicAccess | protectedAccess | privateAccess => true
  | _ => false

end Modifier

/-! ### Visibility -/

/-- Who sees a member. -/
inductive Visibility where
  | everywhere
  | subclasses
  | package
  | owner
  deriving DecidableEq, Repr

namespace Visibility

/-- The words for the visibilities. -/
def words : List (String × Visibility) :=
  [("public", everywhere), ("protected", subclasses), ("package", package), ("private", owner)]

/-- The word for a visibility. -/
def word : Visibility → String := wordIn words

/-- What modifiers say about the visibility of a member. Without a word for it, a member of an
interface is seen everywhere and a member of a class in its package. -/
def ofModifiers (modifiers : List Modifier) (kind : Kind) : Visibility :=
  if modifiers.contains .publicAccess then everywhere
  else if modifiers.contains .protectedAccess then subclasses
  else if modifiers.contains .privateAccess then owner
  else match kind with
    | .interfaceKind => everywhere
    | .classKind => package

end Visibility

end BuilderPlanner
