import BuilderPlanner.Json.Decoder
import BuilderPlanner.Json.Value
import BuilderPlanner.Proofs.Json.Quoted

/-!
# Written values are read as they were

The reader takes the text of a value lexeme by lexeme. Where the text of a value ends, the reader
has this value complete and the stack that it had before.

* `Value.reading` — a value as read, complete and with nothing cut;
* `Layout.IsBlank` — a layout that puts only blanks between the parts of a text;
* `ReadsBack` — the text of a value leads the reader from where a value is due to where it is
  complete, whatever is open around it and whatever follows;
* `readsBack` — all values do so, in every layout of blanks;
* `Decoder.ofText_write` — a decoder finds in the text of a value what it finds in the value.
-/

namespace BuilderPlanner.Json

/-! ### Values as read -/

namespace Value

/-- Induction on values, with the hypothesis for every item and member. -/
@[elab_as_elim, induction_eliminator]
theorem induct {motive : Value → Prop} (null : motive .null)
    (string : ∀ text, motive (.string text))
    (array : ∀ items, (∀ v ∈ items, motive v) → motive (.array items))
    (object : ∀ members, (∀ m ∈ members, motive m.2) → motive (.object members))
    (v : Value) : motive v :=
  Value.rec (motive_2 := fun items => ∀ v ∈ items, motive v)
    (motive_3 := fun members => ∀ m ∈ members, motive m.2) (motive_4 := fun m => motive m.2)
    null string array object
    (fun _ h => by cases h)
    (fun _ _ hv hvs _ h => by
      cases h with
      | head => exact hv
      | tail _ h => exact hvs _ h)
    (fun _ h => by cases h)
    (fun _ _ hm hms _ h => by
      cases h with
      | head => exact hm
      | tail _ h => exact hms _ h)
    (fun _ _ hv => hv) v

mutual

/-- A value as read, complete and with nothing cut. -/
def reading : Value → Reading
  | null => .null
  | string text => .string (.text text)
  | array items => .array (readings items) none
  | object members => .object (memberReadings members) none

/-- The items of an array as read. -/
def readings : List Value → List Reading
  | [] => []
  | v :: rest => v.reading :: readings rest

/-- The members of an object as read. -/
def memberReadings : List (String × Value) → List (Quoted × Reading)
  | [] => []
  | (key, v) :: rest => (.text key, v.reading) :: memberReadings rest

end

@[simp]
theorem readings_eq_map (items : List Value) : readings items = items.map reading := by
  induction items with
  | nil => rfl
  | cons v rest ih => simp [readings, ih]

@[simp]
theorem memberReadings_eq_map (members : List (String × Value)) :
    memberReadings members = members.map fun m => (.text m.1, m.2.reading) := by
  induction members with
  | nil => rfl
  | cons m rest ih => simp [memberReadings, ih]

end Value

/-! ### Blanks -/

/-- Only blanks stand between the parts of a text. -/
structure Layout.IsBlank (layout : Layout) : Prop where
  lineBreak : ∀ depth, ∀ c ∈ layout.lineBreak depth, isBlank c = true
  afterColon : ∀ c ∈ layout.afterColon, isBlank c = true

theorem Layout.isBlank_compact : Layout.compact.IsBlank where
  lineBreak _ _ hc := absurd hc List.not_mem_nil
  afterColon _ hc := absurd hc List.not_mem_nil

theorem Layout.isBlank_indented : Layout.indented.IsBlank where
  lineBreak depth c hc := by
    rcases List.mem_cons.1 hc with rfl | hc
    · decide
    · rw [List.eq_of_mem_replicate hc]
      decide
  afterColon c hc := by
    rw [List.mem_singleton.1 hc]
    decide

theorem dropBlanks_append {blanks : List Char} (h : ∀ c ∈ blanks, isBlank c = true)
    (cs : List Char) : dropBlanks (blanks ++ cs) = dropBlanks cs :=
  List.dropWhile_append_of_pos h

theorem dropBlanks_cons {c : Char} (h : isBlank c = false) (cs : List Char) :
    dropBlanks (c :: cs) = c :: cs :=
  List.dropWhile_cons_of_neg (by simp [h])

/-- The text of a value begins with no blank and with no closing bracket. -/
theorem Value.exists_writeAt_eq_cons (layout : Layout) (depth : Nat) (v : Value) :
    ∃ c cs, v.writeAt layout depth = c :: cs ∧ isBlank c = false ∧ c ≠ ']' := by
  cases v with
  | null => exact ⟨'n', _, by rw [writeAt], by decide, by decide⟩
  | string s => exact ⟨'"', _, by rw [writeAt, writeQuoted], by decide, by decide⟩
  | array items =>
    cases items with
    | nil => exact ⟨'[', _, by rw [writeAt], by decide, by decide⟩
    | cons v rest => exact ⟨'[', _, by rw [writeAt], by decide, by decide⟩
  | object members =>
    cases members with
    | nil => exact ⟨'{', _, by rw [writeAt], by decide, by decide⟩
    | cons m rest => exact ⟨'{', _, by rw [writeAt], by decide, by decide⟩

namespace Machine

/-! ### Steps -/

theorem run_of_step {phase phase' : Phase} {stack stack' : List Frame} {cs rest : List Char}
    (h : step phase stack cs = .next phase' stack' rest) :
    run phase stack cs = run phase' stack' rest := by
  rw [run_eq, h]

/-- Blanks before a value make no difference. -/
theorem run_value_blanks {blanks : List Char} (h : ∀ c ∈ blanks, isBlank c = true)
    (stack : List Frame) (cs : List Char) :
    run .value stack (blanks ++ cs) = run .value stack cs := by
  have hstep : step .value stack (blanks ++ cs) = step .value stack cs := by
    show stepValue stack (blanks ++ cs) = stepValue stack cs
    rw [stepValue, stepValue, dropBlanks_append h]
  rw [run_eq, run_eq .value stack cs, hstep]

/-- An array is opened by its bracket if an item follows. -/
theorem run_openArray {blanks : List Char} (h : ∀ c ∈ blanks, isBlank c = true) {c : Char}
    (hblank : isBlank c = false) (hc : c ≠ ']') (stack : List Frame) (rest : List Char) :
    run .value stack ('[' :: (blanks ++ c :: rest)) =
      run .value (.array [] :: stack) (c :: rest) := by
  apply run_of_step
  rw [step]
  have hdrop : dropBlanks (blanks ++ c :: rest) = c :: rest := by
    rw [dropBlanks_append h, dropBlanks_cons hblank]
  rw [stepValue, dropBlanks_cons (by decide)]
  simp only [readLexeme, hdrop]
  split
  · rename_i heq
    cases heq
  · rename_i heq
    cases heq
    exact absurd rfl hc
  · rfl

/-- An object is opened by its brace. -/
theorem run_openObject (stack : List Frame) (rest : List Char) :
    run .value stack ('{' :: rest) = run (.key true []) stack rest := by
  apply run_of_step
  rw [step, stepValue, dropBlanks_cons (by decide)]
  rfl

/-- A key is read up to its colon. -/
theorem run_key {blanks : List Char} (h : ∀ c ∈ blanks, isBlank c = true) (first : Bool)
    (before : List (Quoted × Reading)) (stack : List Frame) (key : String) (rest : List Char) :
    run (.key first before) stack (blanks ++ writeQuoted key ++ ':' :: rest) =
      run .value (.object before (.text key) :: stack) rest := by
  apply run_of_step
  rw [step]
  have hdrop : dropBlanks (blanks ++ writeQuoted key ++ ':' :: rest) =
      '"' :: (key.toList.flatMap writeChar ++ '"' :: ':' :: rest) := by
    rw [List.append_assoc, dropBlanks_append h, writeQuoted]
    simp [dropBlanks_cons (show isBlank '"' = false from by decide)]
  have hcolon : dropBlanks (':' :: rest) = ':' :: rest := dropBlanks_cons (by decide) rest
  unfold stepKey
  simp only [hdrop, readQuoted_writeQuoted, hcolon]

/-- A comma after an item leads to the next item. -/
theorem run_nextItem {blanks : List Char} (h : ∀ c ∈ blanks, isBlank c = true) {c : Char}
    (hblank : isBlank c = false) (hc : c ≠ ']') (r : Reading) (before : List Reading)
    (stack : List Frame) (rest : List Char) :
    run (.after r) (.array before :: stack) (',' :: (blanks ++ c :: rest)) =
      run .value (.array (r :: before) :: stack) (c :: rest) := by
  apply run_of_step
  rw [step]
  have hdrop : dropBlanks (blanks ++ c :: rest) = c :: rest := by
    rw [dropBlanks_append h, dropBlanks_cons hblank]
  have hcomma : dropBlanks (',' :: (blanks ++ c :: rest)) = ',' :: (blanks ++ c :: rest) :=
    dropBlanks_cons (by decide) _
  unfold stepAfter
  simp only [hcomma, hdrop]
  split
  · rename_i heq
    cases heq
  · rename_i heq
    cases heq
    exact absurd rfl hc
  · rfl

/-- A bracket after an item closes the array. -/
theorem run_closeArray {blanks : List Char} (h : ∀ c ∈ blanks, isBlank c = true) (r : Reading)
    (before : List Reading) (stack : List Frame) (rest : List Char) :
    run (.after r) (.array before :: stack) (blanks ++ ']' :: rest) =
      run (.after (.array (r :: before).reverse none)) stack rest := by
  apply run_of_step
  rw [step]
  have hdrop : dropBlanks (blanks ++ ']' :: rest) = ']' :: rest := by
    rw [dropBlanks_append h, dropBlanks_cons (by decide)]
  unfold stepAfter
  simp only [hdrop]

/-- A comma after a member leads to the next key. -/
theorem run_nextMember (r : Reading) (before : List (Quoted × Reading)) (key : Quoted)
    (stack : List Frame) (rest : List Char) :
    run (.after r) (.object before key :: stack) (',' :: rest) =
      run (.key false ((key, r) :: before)) stack rest := by
  apply run_of_step
  rw [step]
  have hcomma : dropBlanks (',' :: rest) = ',' :: rest := dropBlanks_cons (by decide) rest
  unfold stepAfter
  simp only [hcomma]

/-- A brace after a member closes the object. -/
theorem run_closeObject {blanks : List Char} (h : ∀ c ∈ blanks, isBlank c = true) (r : Reading)
    (before : List (Quoted × Reading)) (key : Quoted) (stack : List Frame) (rest : List Char) :
    run (.after r) (.object before key :: stack) (blanks ++ '}' :: rest) =
      run (.after (.object ((key, r) :: before).reverse none)) stack rest := by
  apply run_of_step
  rw [step]
  have hdrop : dropBlanks (blanks ++ '}' :: rest) = '}' :: rest := by
    rw [dropBlanks_append h, dropBlanks_cons (by decide)]
  unfold stepAfter
  simp only [hdrop]

/-! ### Values, items and members -/

/-- The text of a value leads the reader from where a value is due to where this value is complete,
whatever is open around it and whatever follows. -/
def ReadsBack (layout : Layout) (v : Value) : Prop :=
  ∀ depth stack rest,
    run .value stack (v.writeAt layout depth ++ rest) = run (.after v.reading) stack rest

variable {layout : Layout}

/-- The text of the items after the first closes the array around them. -/
theorem run_writeItems (hlayout : layout.IsBlank) {items : List Value}
    (h : ∀ v ∈ items, ReadsBack layout v) (depth : Nat) (r : Reading) (before : List Reading)
    (stack : List Frame) (rest : List Char) :
    run (.after r) (.array before :: stack) (Value.writeItems layout depth items ++ rest) =
      run (.after (.array ((r :: before).reverse ++ items.map Value.reading) none)) stack rest := by
  induction items generalizing r before with
  | nil =>
    rw [Value.writeItems, List.append_assoc, List.singleton_append,
      run_closeArray (hlayout.lineBreak depth), List.map_nil, List.append_nil]
  | cons v items ih =>
    have hv := h v List.mem_cons_self (depth + 1)
    obtain ⟨c, cs, hwrite, hblank, hc⟩ := v.exists_writeAt_eq_cons layout (depth + 1)
    rw [hwrite] at hv
    rw [Value.writeItems, hwrite]
    simp only [List.cons_append, List.append_assoc] at hv ⊢
    rw [run_nextItem (hlayout.lineBreak (depth + 1)) hblank hc, hv,
      ih fun u hu => h u (List.mem_cons_of_mem v hu)]
    simp

/-- The text of a key and its value leads to where the value is complete. -/
theorem run_member (hlayout : layout.IsBlank) {v : Value} (h : ReadsBack layout v) (depth : Nat)
    (first : Bool) (before : List (Quoted × Reading)) (stack : List Frame) (key : String)
    (rest : List Char) :
    run (.key first before) stack (layout.lineBreak depth ++ writeQuoted key ++
        ':' :: layout.afterColon ++ v.writeAt layout depth ++ rest) =
      run (.after v.reading) (.object before (.text key) :: stack) rest := by
  have hkey := run_key (hlayout.lineBreak depth) first before stack key
    (layout.afterColon ++ (v.writeAt layout depth ++ rest))
  simp only [List.append_assoc, List.cons_append] at hkey ⊢
  rw [hkey, run_value_blanks hlayout.afterColon, h]

/-- The text of the members after the first closes the object around them. -/
theorem run_writeMembers (hlayout : layout.IsBlank) {members : List (String × Value)}
    (h : ∀ m ∈ members, ReadsBack layout m.2) (depth : Nat) (r : Reading)
    (before : List (Quoted × Reading)) (key : Quoted) (stack : List Frame) (rest : List Char) :
    run (.after r) (.object before key :: stack)
        (Value.writeMembers layout depth members ++ rest) =
      run (.after (.object (((key, r) :: before).reverse ++
        members.map fun m => (.text m.1, m.2.reading)) none)) stack rest := by
  induction members generalizing r before key with
  | nil =>
    rw [Value.writeMembers, List.append_assoc, List.singleton_append,
      run_closeObject (hlayout.lineBreak depth), List.map_nil, List.append_nil]
  | cons m members ih =>
    obtain ⟨key', v⟩ := m
    have hmember := run_member hlayout (h (key', v) List.mem_cons_self) (depth + 1) false
      ((key, r) :: before) stack key' (Value.writeMembers layout depth members ++ rest)
    rw [Value.writeMembers]
    simp only [List.cons_append, List.append_assoc] at hmember ⊢
    rw [run_nextMember, hmember, ih fun m hm => h m (List.mem_cons_of_mem _ hm)]
    simp

/-- Every value is read back: one case for each kind of value. -/
theorem readsBack (hlayout : layout.IsBlank) (v : Value) : ReadsBack layout v := by
  induction v with
  | null =>
    intro depth stack rest
    exact run_of_step rfl
  | string s =>
    intro depth stack rest
    apply run_of_step
    rw [step, Value.writeAt, writeQuoted, stepValue, List.cons_append, dropBlanks_cons (by decide)]
    simp [readLexeme, readQuoted_writeQuoted, Value.reading]
  | array items ih =>
    intro depth stack rest
    cases items with
    | nil => exact run_of_step rfl
    | cons v items =>
      have hv := ih v List.mem_cons_self (depth + 1)
      obtain ⟨c, cs, hwrite, hblank, hc⟩ := v.exists_writeAt_eq_cons layout (depth + 1)
      rw [hwrite] at hv
      rw [Value.writeAt, hwrite]
      simp only [List.cons_append, List.append_assoc] at hv ⊢
      rw [run_openArray (hlayout.lineBreak (depth + 1)) hblank hc, hv,
        run_writeItems hlayout fun u hu => ih u (List.mem_cons_of_mem v hu)]
      simp [Value.reading]
  | object members ih =>
    intro depth stack rest
    cases members with
    | nil =>
      show run .value stack ('{' :: '}' :: rest) = _
      rw [run_openObject]
      exact run_of_step rfl
    | cons m members =>
      obtain ⟨key, v⟩ := m
      have hmember := run_member hlayout (ih (key, v) List.mem_cons_self) (depth + 1) true []
        stack key (Value.writeMembers layout depth members ++ rest)
      rw [Value.writeAt]
      simp only [List.cons_append, List.append_assoc] at hmember ⊢
      rw [run_openObject, hmember,
        run_writeMembers hlayout fun m hm => ih m (List.mem_cons_of_mem _ hm)]
      simp [Value.reading]

end Machine

/-! ### Whole texts -/

variable {layout : Layout}

/-- The text of a value is read as this value, and nothing follows it. -/
theorem Reading.ofText_writeAt (hlayout : layout.IsBlank) (v : Value) :
    Reading.ofText (v.writeAt layout 0) = (v.reading, false) := by
  have hrun : Machine.run .value [] (v.writeAt layout 0) = (v.reading, []) := by
    have hback := Machine.readsBack hlayout v 0 [] []
    rw [List.append_nil] at hback
    rw [hback, Machine.run_eq]
    rfl
  simp only [Reading.ofText, hrun]
  rfl

/-- A decoder finds in the text of a value what it finds in the value. -/
theorem Decoder.ofText_write {α : Type} (hlayout : layout.IsBlank) (decode : Decoder α)
    (v : Value) : Decoder.ofText decode (v.write layout) = decode v.reading := by
  rw [Decoder.ofText, Value.write, String.toList_ofList, Reading.ofText_writeAt hlayout]
  show (decode v.reading >>= fun value => if false = true then _ else pure value) = _
  cases decode v.reading with
  | error f => rfl
  | ok a => rfl

end BuilderPlanner.Json
