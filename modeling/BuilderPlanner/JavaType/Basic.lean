/-!
# Java types

A type as it is written in a declaration: a class or interface name with type arguments, a type
variable, an array, or a wildcard.

* `JavaType` — the types; primitive types and `void` are names without arguments;
* `JavaType.text` — the written form, and `JavaType.erasure` — the name left once type arguments
  are forgotten;
* `JavaType.bind` — turns the names of type variables into variables;
* `JavaType.substitute` — puts types in place of variables, all at once.
-/

namespace BuilderPlanner

/-- The side on which a wildcard is bounded. -/
inductive Bound where
  /-- The wildcard stands for subtypes of its limit. -/
  | upper
  /-- The wildcard stands for supertypes of its limit. -/
  | lower
  deriving DecidableEq, Repr

/-- The word that introduces a limit on this side. -/
def Bound.keyword : Bound → String
  | .upper => "extends"
  | .lower => "super"

/-- The types of the Java language, up to annotations. -/
inductive JavaType where
  /-- A class, interface or primitive type with its type arguments. -/
  | named (name : String) (args : List JavaType)
  /-- A type variable. -/
  | var (name : String)
  /-- An array. -/
  | array (element : JavaType)
  /-- The wildcard without a limit. -/
  | wildcard
  /-- A wildcard with a limit. -/
  | bounded (bound : Bound) (limit : JavaType)
  deriving Repr

namespace JavaType

instance : Inhabited JavaType := ⟨wildcard⟩

/-- The root of the class hierarchy. -/
def objectName : String := "java.lang.Object"

/-- A type without arguments. -/
@[match_pattern] abbrev plain (name : String) : JavaType := named name []

/-- The root of the class hierarchy, as a type. -/
def object : JavaType := plain objectName

/-- Induction on types, with the hypothesis for every type argument. -/
@[elab_as_elim, induction_eliminator]
theorem induct {motive : JavaType → Prop}
    (named : ∀ name args, (∀ a ∈ args, motive a) → motive (.named name args))
    (var : ∀ name, motive (.var name))
    (array : ∀ element, motive element → motive (.array element))
    (wildcard : motive .wildcard)
    (bounded : ∀ bound limit, motive limit → motive (.bounded bound limit))
    (t : JavaType) : motive t :=
  JavaType.rec (motive_2 := fun args => ∀ a ∈ args, motive a) named var array wildcard bounded
    (fun _ h => by cases h)
    (fun _ _ ha has _ h => by
      cases h with
      | head => exact ha
      | tail _ h => exact has _ h) t

/-! ### Equality -/

mutual

/-- Decides whether two types are the same. -/
def decideEq : (s t : JavaType) → Decidable (s = t)
  | named m as, named n bs =>
    if h : m = n then
      match decideAllEq as bs with
      | isTrue h' => isTrue (by rw [h, h'])
      | isFalse h' => isFalse (by simp [h'])
    else isFalse (by simp [h])
  | var m, var n => if h : m = n then isTrue (by rw [h]) else isFalse (by simp [h])
  | array s, array t =>
    match decideEq s t with
    | isTrue h => isTrue (by rw [h])
    | isFalse h => isFalse (by simp [h])
  | wildcard, wildcard => isTrue rfl
  | bounded b s, bounded c t =>
    if h : b = c then
      match decideEq s t with
      | isTrue h' => isTrue (by rw [h, h'])
      | isFalse h' => isFalse (by simp [h'])
    else isFalse (by simp [h])
  | named _ _, var _ | named _ _, array _ | named _ _, wildcard | named _ _, bounded _ _
  | var _, named _ _ | var _, array _ | var _, wildcard | var _, bounded _ _
  | array _, named _ _ | array _, var _ | array _, wildcard | array _, bounded _ _
  | wildcard, named _ _ | wildcard, var _ | wildcard, array _ | wildcard, bounded _ _
  | bounded _ _, named _ _ | bounded _ _, var _ | bounded _ _, array _
  | bounded _ _, wildcard => isFalse nofun

/-- Decides whether two lists of types are the same. -/
def decideAllEq : (as bs : List JavaType) → Decidable (as = bs)
  | [], [] => isTrue rfl
  | a :: as, b :: bs =>
    match decideEq a b, decideAllEq as bs with
    | isTrue h, isTrue h' => isTrue (by rw [h, h'])
    | isFalse h, _ => isFalse (by simp [h])
    | _, isFalse h => isFalse (by simp [h])
  | [], _ :: _ => isFalse nofun
  | _ :: _, [] => isFalse nofun

end

instance : DecidableEq JavaType := decideEq

/-! ### Written form and erasure -/

mutual

/-- The written form of a type. -/
def text : JavaType → String
  | named name [] => name
  | named name (a :: rest) => name ++ "<" ++ a.text ++ textRest rest
  | var name => name
  | array element => element.text ++ "[]"
  | wildcard => "?"
  | bounded b limit => "? " ++ b.keyword ++ " " ++ limit.text

/-- The written form of the arguments after the first, with the mark that closes them. -/
def textRest : List JavaType → String
  | [] => ">"
  | a :: rest => ", " ++ a.text ++ textRest rest

end

/-- The name of a type once its arguments are forgotten. A wildcard erases to the root class. -/
def erasure : JavaType → String
  | named name _ => name
  | var name => name
  | array element => element.erasure ++ "[]"
  | wildcard => objectName
  | bounded _ _ => objectName

/-! ### Parts -/

/-- The name of a class, interface or primitive type. -/
def name? : JavaType → Option String
  | named name _ => some name
  | _ => none

/-- The type arguments. -/
def args : JavaType → List JavaType
  | named _ args => args
  | _ => []

/-- Whether this is the result type of a method without a result. -/
def isVoid : JavaType → Bool
  | plain name => name == "void"
  | _ => false

/-- Whether this is a truth value, primitive or boxed. -/
def isBoolean : JavaType → Bool
  | plain name => name == "boolean" || name == "java.lang.Boolean"
  | _ => false

/-! ### Variables -/

mutual

/-- Makes a variable of every argument-less name that is in scope. -/
def bind (scope : List String) : JavaType → JavaType
  | named name [] => if scope.contains name then var name else plain name
  | named name (a :: rest) => named name (a.bind scope :: bindAll scope rest)
  | var name => var name
  | array element => array (element.bind scope)
  | wildcard => wildcard
  | bounded b limit => bounded b (limit.bind scope)

/-- Makes variables in every type of a list. -/
def bindAll (scope : List String) : List JavaType → List JavaType
  | [] => []
  | a :: rest => a.bind scope :: bindAll scope rest

end

mutual

/-- Puts `σ x` in place of every variable `x` for which it is given. -/
def substitute (σ : String → Option JavaType) : JavaType → JavaType
  | named name args => named name (substituteAll σ args)
  | var name => (σ name).getD (var name)
  | array element => array (element.substitute σ)
  | wildcard => wildcard
  | bounded b limit => bounded b (limit.substitute σ)

/-- Substitutes in every type of a list. -/
def substituteAll (σ : String → Option JavaType) : List JavaType → List JavaType
  | [] => []
  | a :: rest => a.substitute σ :: substituteAll σ rest

end

@[simp]
theorem bindAll_eq_map (scope : List String) (ts : List JavaType) :
    bindAll scope ts = ts.map (bind scope) := by
  induction ts with
  | nil => rfl
  | cons t ts ih => simp [bindAll, ih]

@[simp]
theorem substituteAll_eq_map (σ : String → Option JavaType) (ts : List JavaType) :
    substituteAll σ ts = ts.map (substitute σ) := by
  induction ts with
  | nil => rfl
  | cons t ts ih => simp [substituteAll, ih]

end JavaType

end BuilderPlanner
