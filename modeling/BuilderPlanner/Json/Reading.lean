import BuilderPlanner.Json.Lexeme

/-!
# Reading JSON texts

A text is read up to the first place where it stops to be JSON. What has been read until then is
kept, because a reader of records may find an earlier fault in it.

* `Reading` — a value as read: complete, or cut at a stop;
* `Machine` — reads one lexeme or mark at a time, with a stack of open arrays and objects;
* `Reading.ofText` — the value at the front of a text, and whether more than blanks follow it.
-/

namespace BuilderPlanner.Json

/-- A value as read. In a value that is cut, every array and object around the place of the stop
carries it. -/
inductive Reading where
  | null
  | bool (value : Bool)
  | number (value : Numeral)
  | string (value : Quoted)
  | array (items : List Reading) (stop : Option Stop)
  | object (members : List (Quoted × Reading)) (stop : Option Stop)
  /-- The stop stands where the value should begin, or inside a word, number or string. -/
  | broken (stop : Stop)
  deriving Repr

instance : Inhabited Reading := ⟨.null⟩

namespace Reading

/-- The beginning of a value. -/
def lexeme : Reading → Lexeme
  | null => .null
  | bool value => .bool value
  | number value => .number value
  | string value => .string value
  | array _ _ => .openArray
  | object _ _ => .openObject
  | broken s => .stop s

/-- The place where a value is cut, if it is. -/
def stop? : Reading → Option Stop
  | array _ stop => stop
  | object _ stop => stop
  | broken stop => some stop
  | _ => none

end Reading

/-! ### The machine -/

namespace Machine

/-- An open array or object with what has been read of it, last first. -/
inductive Frame where
  | array (before : List Reading)
  /-- The value of `key` is being read. -/
  | object (before : List (Quoted × Reading)) (key : Quoted)

/-- What is due at the front of the text. -/
inductive Phase where
  | value
  /-- A key, after the opening brace if `first` and after a comma otherwise. -/
  | key (first : Bool) (before : List (Quoted × Reading))
  /-- What follows a complete value. -/
  | after (value : Reading)

/-- What a step leads to. -/
inductive Step where
  | next (phase : Phase) (stack : List Frame) (rest : List Char)
  | finished (value : Reading) (rest : List Char)

/-- Closes all open arrays and objects around a value that is cut. -/
def cut (stop : Stop) (value : Reading) : List Frame → Reading
  | [] => value
  | .array before :: stack => cut stop (.array (value :: before).reverse (some stop)) stack
  | .object before key :: stack =>
    cut stop (.object ((key, value) :: before).reverse (some stop)) stack

/-- Ends the reading at a stop inside or instead of `value`. -/
def halt (stop : Stop) (value : Reading) (stack : List Frame) : Step :=
  .finished (cut stop value stack) []

/-- A value is due. -/
def stepValue (stack : List Frame) (cs : List Char) : Step :=
  match readLexeme (dropBlanks cs) with
  | (.null, rest) => .next (.after .null) stack rest
  | (.bool value, rest) => .next (.after (.bool value)) stack rest
  | (.number value, rest) => .next (.after (.number value)) stack rest
  | (.string value, rest) => .next (.after (.string value)) stack rest
  | (.openArray, rest) =>
    match dropBlanks rest with
    | [] => halt .endOfItems (.array [] (some .endOfItems)) stack
    | ']' :: rest => .next (.after (.array [] none)) stack rest
    | rest => .next .value (.array [] :: stack) rest
  | (.openObject, rest) => .next (.key true []) stack rest
  | (.stop s, _) => halt s (.broken s) stack

/-- A key is due. -/
def stepKey (first : Bool) (before : List (Quoted × Reading)) (stack : List Frame)
    (cs : List Char) : Step :=
  let stopped (s : Stop) := halt s (.object before.reverse (some s)) stack
  match dropBlanks cs with
  | [] => stopped (if first then .noKey else .noMember)
  | '}' :: rest =>
    if first then .next (.after (.object [] none)) stack rest else stopped .commaAtBrace
  | '"' :: rest =>
    match readQuoted rest with
    | .broken wanted ignored => stopped (.badString wanted ignored)
    | .complete key rest =>
      match dropBlanks rest with
      | [] => halt .endAfterKey (.broken .endAfterKey) (.object before key :: stack)
      | ':' :: rest => .next .value (.object before key :: stack) rest
      | _ => halt .noColon (.broken .noColon) (.object before key :: stack)
  | cs => stopped (.badKey ((readLexeme cs).1.mismatch "variant identifier"))

/-- A value is complete. -/
def stepAfter (value : Reading) (stack : List Frame) (cs : List Char) : Step :=
  match stack with
  | [] => .finished value cs
  | .array before :: stack =>
    let stopped (s : Stop) := halt s (.array (value :: before).reverse (some s)) stack
    match dropBlanks cs with
    | [] => stopped .endOfItems
    | ']' :: rest => .next (.after (.array (value :: before).reverse none)) stack rest
    | ',' :: rest =>
      match dropBlanks rest with
      | [] => stopped .noItem
      | ']' :: _ => stopped .commaAtBracket
      | rest => .next .value (.array (value :: before) :: stack) rest
    | _ => stopped .badItemEnd
  | .object before key :: stack =>
    let stopped (s : Stop) := halt s (.object ((key, value) :: before).reverse (some s)) stack
    match dropBlanks cs with
    | [] => stopped .endAfterMember
    | '}' :: rest => .next (.after (.object ((key, value) :: before).reverse none)) stack rest
    | ',' :: rest => .next (.key false ((key, value) :: before)) stack rest
    | _ => stopped .badMemberEnd

/-- One step. -/
def step : Phase → List Frame → List Char → Step
  | .value => stepValue
  | .key first before => stepKey first before
  | .after value => stepAfter value

/-! ### Every step shortens the text -/

theorem length_of_stepValue {stack stack' : List Frame} {cs rest : List Char} {phase : Phase}
    (h : stepValue stack cs = .next phase stack' rest) : rest.length < cs.length := by
  have hb := length_dropBlanks cs
  unfold stepValue at h
  split at h
  case h_7 => exact absurd h (by simp [halt])
  case h_5 after hr =>
    have hl := length_of_readLexeme hr (by simp)
    have ha := length_dropBlanks after
    split at h
    · exact absurd h (by simp [halt])
    · rename_i hd
      rw [hd, List.length_cons] at ha
      simp only [Step.next.injEq] at h
      rw [← h.2.2]
      omega
    · simp only [Step.next.injEq] at h
      rw [← h.2.2]
      omega
  all_goals
    rename_i hr
    have hl := length_of_readLexeme hr (by simp)
    simp only [Step.next.injEq] at h
    rw [← h.2.2]
    omega

theorem length_of_stepKey {first : Bool} {before : List (Quoted × Reading)}
    {stack stack' : List Frame} {cs rest : List Char} {phase : Phase}
    (h : stepKey first before stack cs = .next phase stack' rest) : rest.length < cs.length := by
  have hb := length_dropBlanks cs
  unfold stepKey at h
  dsimp only at h
  split at h
  · exact absurd h (by simp [halt])
  · rename_i hd
    rw [hd, List.length_cons] at hb
    split at h
    · simp only [Step.next.injEq] at h
      rw [← h.2.2]
      omega
    · exact absurd h (by simp [halt])
  · rename_i hd
    rw [hd, List.length_cons] at hb
    split at h
    · exact absurd h (by simp [halt])
    · rename_i after hq
      have hl := length_of_readQuoted hq
      have ha := length_dropBlanks after
      split at h
      · exact absurd h (by simp [halt])
      · rename_i hd
        rw [hd, List.length_cons] at ha
        simp only [Step.next.injEq] at h
        rw [← h.2.2]
        omega
      · exact absurd h (by simp [halt])
  · exact absurd h (by simp [halt])

theorem length_of_stepAfter {value : Reading} {stack stack' : List Frame} {cs rest : List Char}
    {phase : Phase} (h : stepAfter value stack cs = .next phase stack' rest) :
    rest.length < cs.length := by
  have hb := length_dropBlanks cs
  unfold stepAfter at h
  dsimp only at h
  split at h
  · exact absurd h (by simp)
  · split at h
    · exact absurd h (by simp [halt])
    · rename_i hd
      rw [hd, List.length_cons] at hb
      simp only [Step.next.injEq] at h
      rw [← h.2.2]
      omega
    · rename_i after hd
      rw [hd, List.length_cons] at hb
      have ha := length_dropBlanks after
      split at h
      · exact absurd h (by simp [halt])
      · exact absurd h (by simp [halt])
      · simp only [Step.next.injEq] at h
        rw [← h.2.2]
        omega
    · exact absurd h (by simp [halt])
  · split at h
    · exact absurd h (by simp [halt])
    · rename_i hd
      rw [hd, List.length_cons] at hb
      simp only [Step.next.injEq] at h
      rw [← h.2.2]
      omega
    · rename_i hd
      rw [hd, List.length_cons] at hb
      simp only [Step.next.injEq] at h
      rw [← h.2.2]
      omega
    · exact absurd h (by simp [halt])

/-- A step takes at least one character. -/
theorem length_of_step {phase phase' : Phase} {stack stack' : List Frame} {cs rest : List Char}
    (h : step phase stack cs = .next phase' stack' rest) : rest.length < cs.length := by
  cases phase with
  | value => exact length_of_stepValue h
  | key first before => exact length_of_stepKey h
  | after value => exact length_of_stepAfter h

/-- Steps on until a value is complete or cut, for at most `fuel` steps. -/
def runFor : Nat → Phase → List Frame → List Char → Reading × List Char
  | 0, _, _, cs => (.null, cs)
  | fuel + 1, phase, stack, cs =>
    match step phase stack cs with
    | .next phase stack rest => runFor fuel phase stack rest
    | .finished value rest => (value, rest)

/-- Steps on until a value is complete or cut. Every step takes a character, so there are enough
steps. -/
def run (phase : Phase) (stack : List Frame) (cs : List Char) : Reading × List Char :=
  runFor (cs.length + 1) phase stack cs

theorem runFor_eq_of_lt {fuel fuel' : Nat} {phase : Phase} {stack : List Frame} {cs : List Char}
    (h : cs.length < fuel) (h' : cs.length < fuel') :
    runFor fuel phase stack cs = runFor fuel' phase stack cs := by
  induction fuel generalizing fuel' phase stack cs with
  | zero => exact absurd h (Nat.not_lt_zero _)
  | succ fuel ih =>
    obtain ⟨fuel', rfl⟩ := Nat.exists_eq_succ_of_ne_zero (Nat.ne_of_gt (Nat.zero_lt_of_lt h'))
    simp only [runFor]
    split
    · rename_i hs
      have := length_of_step hs
      exact ih (by omega) (by omega)
    · rfl

/-- What a run does first. -/
theorem run_eq (phase : Phase) (stack : List Frame) (cs : List Char) :
    run phase stack cs = match step phase stack cs with
      | .next phase stack rest => run phase stack rest
      | .finished value rest => (value, rest) := by
  rw [run, runFor]
  split
  · rename_i hs
    have := length_of_step hs
    exact runFor_eq_of_lt this (Nat.lt_succ_self _)
  · rfl

end Machine

/-- The value at the front of a text, and whether more than blanks follow it. -/
def Reading.ofText (text : List Char) : Reading × Bool :=
  let (value, rest) := Machine.run .value [] text
  (value, !(dropBlanks rest).isEmpty)

end BuilderPlanner.Json
