import BuilderPlanner.Json.Numeral
import BuilderPlanner.Json.Quoted

/-!
# Lexemes of JSON texts

The beginning of a value: a word, a number, a string, or the mark that opens an array or object.

* `Stop` — the places where a text stops to be JSON, with the fault that each kind of reader finds;
* `Lexeme` — the beginnings of values, and `readLexeme` — cuts one off a text;
* `Lexeme.mismatch` — the fault of a reader that wants something else.
-/

namespace BuilderPlanner.Json

/-! ### Blanks -/

/-- The blanks of JSON texts. -/
def isBlank (c : Char) : Bool := c == ' ' || c == '\t' || c == '\n' || c == '\r'

/-- Drops the blanks at the front of a text. -/
def dropBlanks (cs : List Char) : List Char := cs.dropWhile isBlank

/-! ### Stops -/

/-- The places where a text stops to be JSON. -/
inductive Stop where
  /-- The text ends where a value is due. -/
  | noValue
  /-- A character that begins no value. -/
  | badValue
  /-- The text ends inside a word. -/
  | endInWord
  /-- A word that is none of the three. -/
  | badWord
  /-- The text ends inside a number. -/
  | endInNumber
  | badNumber
  /-- A string without end, with the faults for readers that want and that ignore it. -/
  | badString (wanted ignored : Fault)
  /-- The text ends after an opening bracket or an item. -/
  | endOfItems
  /-- The text ends after the comma of an array. -/
  | noItem
  /-- A closing bracket after a comma. -/
  | commaAtBracket
  /-- Another character than a comma or closing bracket after an item. -/
  | badItemEnd
  /-- The text ends after an opening brace. -/
  | noKey
  /-- Another character than a quotation mark where a key is due, with the fault of a reader that
  takes any value for the key. -/
  | badKey (asValue : Fault)
  /-- The text ends after a key. -/
  | endAfterKey
  /-- Another character than a colon after a key. -/
  | noColon
  /-- The text ends after a member. -/
  | endAfterMember
  /-- The text ends after the comma of an object. -/
  | noMember
  /-- A closing brace after a comma. -/
  | commaAtBrace
  /-- Another character than a comma or closing brace after a member. -/
  | badMemberEnd
  deriving DecidableEq, Repr

namespace Stop

/-- The fault for a reader that wants the value. -/
def wanted : Stop → Fault
  | noValue | endInWord | endInNumber | noItem | noMember => .endInValue
  | badValue => .expectedValue
  | badWord => .expectedWord
  | badNumber => .badNumber
  | badString fault _ => fault
  | endOfItems => .endInArray
  | commaAtBracket | commaAtBrace => .trailingComma
  | badItemEnd => .expectedItemEnd
  | noKey | endAfterKey | endAfterMember => .endInObject
  | badKey _ => .keyNotString
  | noColon => .expectedColon
  | badMemberEnd => .expectedMemberEnd

/-- The fault for a reader that ignores the value. -/
def ignored : Stop → Fault
  | endInNumber => .badNumber
  | badString _ fault => fault
  | commaAtBracket => .expectedValue
  | noMember => .endInObject
  | commaAtBrace => .keyNotString
  | stop => stop.wanted

/-- The fault after the last field for a reader of an array that stands for a record. -/
def afterFields : Stop → Fault
  | endOfItems => .endInArray
  | commaAtBracket => .trailingComma
  | _ => .trailingText

/-- The fault for a reader of a word in place of the value. -/
def asWord : Stop → Fault
  | noValue => .endInValue
  | badString fault _ => fault
  | endAfterKey => .endInObject
  | noColon => .expectedColon
  | _ => .expectedValue

/-- The fault for a reader of a word that is the only key of an object, where the key is due. -/
def asOnlyKey : Stop → Fault
  | noKey => .endInValue
  | badKey fault => fault
  | stop => stop.wanted

/-- The fault for a reader of a word that is the only key of an object, after the member. -/
def afterOnlyMember : Stop → Fault
  | endAfterMember => .endInObject
  | _ => .expectedValue

end Stop

/-! ### Lexemes -/

/-- The beginning of a value. -/
inductive Lexeme where
  | null
  | bool (value : Bool)
  | number (value : Numeral)
  | string (value : Quoted)
  | openArray
  | openObject
  | stop (stop : Stop)
  deriving DecidableEq, Repr

/-- The fault of a reader that wants something else. Units of strings and sizes of numbers are
looked at first. -/
def Lexeme.mismatch (wanted : String) : Lexeme → Fault
  | null => .mismatch .null wanted
  | bool value => .mismatch (.bool value) wanted
  | number value => match value.denote with
    | some found => .mismatch found wanted
    | none => .numberOutOfRange
  | string (.text value) => .mismatch (.string value) wanted
  | string (.unpaired fault) => fault
  | openArray => .mismatch .array wanted
  | openObject => .mismatch .object wanted
  | stop s => s.wanted

/-- Reads the rest of a word. -/
def readWord (lexeme : Lexeme) : List Char → List Char → Lexeme × List Char
  | [], rest => (lexeme, rest)
  | _ :: _, [] => (.stop .endInWord, [])
  | w :: ws, c :: cs => if c = w then readWord lexeme ws cs else (.stop .badWord, [])

/-- The value of a decimal digit. -/
def digitValue (c : Char) : Nat := c.toNat - '0'.toNat

/-- The digits at the front of a text, of which there is at least one, and the text after them. -/
def readDigits (cs : List Char) : Except Stop (List Nat × List Char) :=
  match cs with
  | [] => .error .endInNumber
  | c :: _ =>
    if c.isDigit then .ok ((cs.takeWhile Char.isDigit).map digitValue, cs.dropWhile Char.isDigit)
    else .error .badNumber

/-- The whole part of a number: a zero, or digits that do not begin with zero. -/
def readWhole : List Char → Except Stop (List Nat × List Char)
  | '0' :: c :: rest => if c.isDigit then .error .badNumber else .ok ([0], c :: rest)
  | cs => readDigits cs

/-- The fraction of a number, if there is one. -/
def readFraction : List Char → Except Stop (Option (List Nat) × List Char)
  | '.' :: rest => do
    let (digits, rest) ← readDigits rest
    return (some digits, rest)
  | cs => .ok (none, cs)

/-- Whether a sign is negative, and the text after it. No sign is a positive one. -/
def readSign : List Char → Bool × List Char
  | '-' :: rest => (true, rest)
  | '+' :: rest => (false, rest)
  | rest => (false, rest)

/-- The power of ten of a number, if there is one. -/
def readPower : List Char → Except Stop (Option (Bool × List Nat) × List Char)
  | [] => .ok (none, [])
  | c :: rest =>
    if c = 'e' ∨ c = 'E' then do
      let (digits, after) ← readDigits (readSign rest).2
      return (some ((readSign rest).1, digits), after)
    else .ok (none, c :: rest)

/-- Reads a number after its sign. -/
def readNumeral (negative : Bool) (cs : List Char) : Except Stop (Numeral × List Char) := do
  let (whole, afterWhole) ← readWhole cs
  let (fraction, afterFraction) ← readFraction afterWhole
  let (power, rest) ← readPower afterFraction
  return (⟨negative, whole, fraction, power⟩, rest)

/-- A number as a lexeme. -/
def numberLexeme : Except Stop (Numeral × List Char) → Lexeme × List Char
  | .ok (n, rest) => (.number n, rest)
  | .error s => (.stop s, [])

/-- Cuts the beginning of a value off a text without blanks at its front. -/
def readLexeme : List Char → Lexeme × List Char
  | [] => (.stop .noValue, [])
  | c :: rest =>
    match c with
    | 'n' => readWord .null ['u', 'l', 'l'] rest
    | 't' => readWord (.bool true) ['r', 'u', 'e'] rest
    | 'f' => readWord (.bool false) ['a', 'l', 's', 'e'] rest
    | '"' => match readQuoted rest with
      | .complete q rest => (.string q, rest)
      | .broken wanted ignored => (.stop (.badString wanted ignored), [])
    | '[' => (.openArray, rest)
    | '{' => (.openObject, rest)
    | '-' => numberLexeme (readNumeral true rest)
    | c =>
      if c.isDigit then numberLexeme (readNumeral false (c :: rest))
      else (.stop .badValue, [])

/-! ### Lexemes are not empty -/

theorem length_dropBlanks (cs : List Char) : (dropBlanks cs).length ≤ cs.length :=
  (List.dropWhile_sublist _).length_le

theorem length_readWord (lexeme : Lexeme) (word cs : List Char) :
    (readWord lexeme word cs).2.length ≤ cs.length := by
  fun_induction readWord lexeme word cs with
  | case1 => exact Nat.le_refl _
  | case2 => exact Nat.le_refl _
  | case3 w ws cs ih => exact Nat.le_succ_of_le ih
  | case4 => exact Nat.zero_le _

theorem length_of_readDigits {cs rest : List Char} {ds : List Nat}
    (h : readDigits cs = .ok (ds, rest)) : rest.length < cs.length := by
  unfold readDigits at h
  split at h
  · exact absurd h (by simp)
  · split at h
    · rename_i c cs hc
      simp only [Except.ok.injEq, Prod.mk.injEq] at h
      rw [← h.2, List.dropWhile_cons, if_pos hc]
      exact Nat.lt_succ_of_le (List.dropWhile_sublist _).length_le
    · exact absurd h (by simp)

theorem length_of_readWhole {cs rest : List Char} {ds : List Nat}
    (h : readWhole cs = .ok (ds, rest)) : rest.length < cs.length := by
  unfold readWhole at h
  split at h
  · split at h
    · exact absurd h (by simp)
    · simp only [Except.ok.injEq, Prod.mk.injEq] at h
      simp [← h.2]
  · exact length_of_readDigits h

theorem length_of_readFraction {cs rest : List Char} {f : Option (List Nat)}
    (h : readFraction cs = .ok (f, rest)) : rest.length ≤ cs.length := by
  unfold readFraction at h
  split at h
  · rename_i cs
    cases hd : readDigits cs with
    | error s => simp [hd, bind, Except.bind] at h
    | ok d =>
      have := length_of_readDigits hd
      simp only [hd, bind, Except.bind, pure, Except.pure, Except.ok.injEq, Prod.mk.injEq] at h
      rw [← h.2, List.length_cons]
      omega
  · simp only [Except.ok.injEq, Prod.mk.injEq] at h
    simp [← h.2]

theorem length_readSign (cs : List Char) : (readSign cs).2.length ≤ cs.length := by
  unfold readSign
  split <;> simp

theorem length_of_readPower {cs rest : List Char} {p : Option (Bool × List Nat)}
    (h : readPower cs = .ok (p, rest)) : rest.length ≤ cs.length := by
  unfold readPower at h
  split at h
  · simp only [Except.ok.injEq, Prod.mk.injEq] at h
    simp [← h.2]
  · rename_i c cs
    split at h
    · cases hd : readDigits (readSign cs).2 with
      | error s => simp [hd, bind, Except.bind] at h
      | ok d =>
        have := length_of_readDigits hd
        have := length_readSign cs
        simp only [hd, bind, Except.bind, pure, Except.pure, Except.ok.injEq, Prod.mk.injEq] at h
        rw [← h.2, List.length_cons]
        omega
    · simp only [Except.ok.injEq, Prod.mk.injEq] at h
      simp [← h.2]

theorem length_of_readNumeral {negative : Bool} {cs rest : List Char} {n : Numeral}
    (h : readNumeral negative cs = .ok (n, rest)) : rest.length < cs.length := by
  unfold readNumeral at h
  cases hw : readWhole cs with
  | error s => simp [hw, bind, Except.bind] at h
  | ok w =>
    have := length_of_readWhole hw
    cases hf : readFraction w.2 with
    | error s => simp [hw, hf, bind, Except.bind] at h
    | ok f =>
      have := length_of_readFraction hf
      cases hp : readPower f.2 with
      | error s => simp [hw, hf, hp, bind, Except.bind] at h
      | ok p =>
        have := length_of_readPower hp
        simp only [hw, hf, hp, bind, Except.bind, pure, Except.pure, Except.ok.injEq,
          Prod.mk.injEq] at h
        rw [← h.2]
        omega

theorem length_numberLexeme {negative : Bool} {cs : List Char} {k : Nat} (h : cs.length ≤ k)
    (hk : 0 < k) : (numberLexeme (readNumeral negative cs)).2.length < k := by
  cases hn : readNumeral negative cs with
  | error s => exact hk
  | ok n =>
    have := length_of_readNumeral hn
    simp only [numberLexeme]
    omega

/-- A lexeme has at least one character. -/
theorem length_readLexeme (c : Char) (rest : List Char) :
    (readLexeme (c :: rest)).2.length < (c :: rest).length := by
  have hc : (c :: rest).length = rest.length + 1 := rfl
  rw [hc]
  unfold readLexeme
  dsimp only
  split
  · exact Nat.lt_succ_of_le (length_readWord _ _ _)
  · exact Nat.lt_succ_of_le (length_readWord _ _ _)
  · exact Nat.lt_succ_of_le (length_readWord _ _ _)
  · split
    · rename_i hq
      exact Nat.lt_succ_of_le (length_of_readQuoted hq)
    · exact Nat.succ_pos _
  · exact Nat.lt_succ_self _
  · exact Nat.lt_succ_self _
  · exact length_numberLexeme (Nat.le_succ _) (Nat.succ_pos _)
  · split
    · exact length_numberLexeme (Nat.le_refl _) (Nat.succ_pos _)
    · exact Nat.succ_pos _

/-- What follows a lexeme is shorter than the text, unless the lexeme is a stop. -/
theorem length_of_readLexeme {cs rest : List Char} {l : Lexeme} (h : readLexeme cs = (l, rest))
    (hl : ∀ s, l ≠ .stop s) : rest.length < cs.length := by
  cases cs with
  | nil =>
    simp only [readLexeme, Prod.mk.injEq] at h
    exact absurd h.1.symm (hl _)
  | cons c cs =>
    have := length_readLexeme c cs
    rwa [h] at this

end BuilderPlanner.Json
