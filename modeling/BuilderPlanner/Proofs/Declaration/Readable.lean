import BuilderPlanner.Proofs.Catalog.Loaded
import BuilderPlanner.Proofs.JavaType.Rereading
import BuilderPlanner.Proofs.Name.Identifier
import BuilderPlanner.Proofs.Unicode.Letters

/-!
# Declared types can be written down

Loading and the reader of types have notions of a name of their own: letters of any script in the
one, alphabetic characters in the other. Every letter is alphabetic, no letter is a blank or a mark,
and numbers are the same in both, so a name that loading accepts is cut into the words that are
meant.

* `beginsWord_of_beginsIdentifier`, `continuesWord_of_continuesIdentifier` — the characters of
  identifiers are those of words;
* `isWord_of_isIdentifier`, `JavaType.exists_isName` — identifiers are words, and qualified names are
  names of types;
* `Document.readable_of_catalog` — the use of a declaration with the names of its parameters can be
  read;
* `Declaration.bind_use` — in the scope of the parameters, it is the type that the members see;
* `Document.declared_types_reread` — every declared type is read from its name, and from its text.
-/

namespace BuilderPlanner

/-! ### Identifiers are words -/

theorem beginsWord_of_beginsIdentifier {c : Char} (h : beginsIdentifier c = true) :
    beginsWord c = true := by
  simp only [beginsIdentifier, Bool.or_eq_true, or_assoc] at h
  rcases h with h | h
  · simp [beginsWord, Unicode.isAlphabetic_of_isLetter h]
  · simpa [beginsWord, or_assoc] using Or.inr h

theorem continuesWord_of_continuesIdentifier {c : Char} (h : continuesIdentifier c = true) :
    continuesWord c = true := by
  rw [continuesIdentifier, Bool.or_eq_true] at h
  rw [continuesWord, Bool.or_eq_true]
  exact h.imp_left beginsWord_of_beginsIdentifier

/-- No blank begins an identifier. -/
theorem isBlank_of_beginsIdentifier {c : Char} (h : beginsIdentifier c = true) :
    Unicode.isBlank c = false := by
  simp only [beginsIdentifier, Bool.or_eq_true, beq_iff_eq, or_assoc] at h
  rcases h with h | rfl | rfl
  · exact Unicode.isBlank_of_isLetter h
  · decide
  · decide

/-- No mark begins an identifier. -/
theorem ofMark?_of_beginsIdentifier {c : Char} (h : beginsIdentifier c = true) :
    TokenKind.ofMark? c = none := by
  cases hmark : TokenKind.ofMark? c with
  | none => rfl
  | some kind =>
    have hcontinues := (TokenKind.outside_of_ofMark? hmark).2
    rw [continuesWord, beginsWord_of_beginsIdentifier h, Bool.true_or] at hcontinues
    cases hcontinues

/-- An identifier is one word in the text of a type. -/
theorem isWord_of_isIdentifier {name : String} (h : isIdentifier name = true) : IsWord name := by
  have hshaped := (isIdentifier_iff.1 h).1
  cases hname : name.toList with
  | nil => simp [hname, identifierShaped] at hshaped
  | cons c rest =>
    rw [hname, identifierShaped_cons] at hshaped
    obtain ⟨hc, hrest⟩ := hshaped
    exact ⟨c, rest, hname, isBlank_of_beginsIdentifier hc, ofMark?_of_beginsIdentifier hc,
      beginsWord_of_beginsIdentifier hc,
      fun d hd => continuesWord_of_continuesIdentifier (hrest d hd)⟩

/-- The text of an identifier has this one word as its tokens. -/
theorem exists_word_of_isIdentifier {name : String} (h : isIdentifier name = true) :
    ∃ tokens, Token.ofText name = .ok tokens ∧ tokens.map Token.kind = [.word name, .finish] := by
  have hspells := Spells.word (isWord_of_isIdentifier h) endsWord_nil .finish
  rw [List.append_nil] at hspells
  exact hspells.exists_scan 0

/-! ### Qualified names are names of types -/

namespace JavaType

/-- A qualified name is a name of types: one part after the other. -/
theorem exists_isName {name : String} (h : IsDotted name) : ∃ q, IsName q name ∧ AllWords q := by
  obtain ⟨parts, hne, hparts, rfl⟩ := h
  induction parts using List.reverseRecOn with
  | nil => exact absurd rfl hne
  | append_singleton parts p ih =>
    have hp : IsWord p := isWord_of_isIdentifier (hparts p (by simp))
    by_cases hnil : parts = []
    · subst hnil
      refine ⟨[.word p], .word p, fun w hw => ?_⟩
      cases List.mem_singleton.1 hw
      exact hp
    · obtain ⟨q, hq, hwords⟩ := ih hnil fun p' hp' => hparts p' (by simp [hp'])
      rw [String.intercalate_append_of_ne_nil hnil (List.cons_ne_nil p [])]
      refine ⟨q ++ [.dot, .word p], hq.dotted p, fun w hw => ?_⟩
      rcases List.mem_append.1 hw with hw | hw
      · exact hwords w hw
      · have hwp : w = p := by simpa using hw
        exact hwp ▸ hp

/-- The use of a declaration with names of parameters as arguments can be read. -/
theorem readable_named_plain {name : String} {ps : List String} (hname : IsDotted name)
    (hps : ∀ p ∈ ps, isIdentifier p = true) : Readable (.named name (ps.map .plain)) := by
  obtain ⟨q, hq, hwords⟩ := exists_isName hname
  refine .named hq hwords fun t ht => ?_
  obtain ⟨p, hp, rfl⟩ := List.mem_map.1 ht
  refine .named (.word p) (fun w hw => ?_) fun t ht => absurd ht List.not_mem_nil
  cases List.mem_singleton.1 hw
  exact isWord_of_isIdentifier (hps p hp)

/-- Types that can be read are the same if they are written alike. -/
theorem Readable.eq_of_text {s t : JavaType} (hs : Readable s) (ht : Readable t)
    (h : s.text = t.text) : s = t := by
  have hread := hs.ofText_text
  rw [h, ht.ofText_text] at hread
  exact (Except.ok.inj hread).symm

theorem bind_nil (t : JavaType) : t.bind [] = t := by
  induction t with
  | named n ts ih =>
    cases ts with
    | nil => rfl
    | cons t ts =>
      rw [bind, bindAll_eq_map, ← List.map_cons]
      exact congrArg _ ((List.map_congr_left ih).trans (List.map_id _))
  | var n => rfl
  | array t ih => rw [bind, ih]
  | wildcard => rfl
  | bounded b t ih => rw [bind, ih]

/-- In a scope, a type that can be read is read with the names of the scope as variables. -/
theorem Readable.readTypeIn_text {t : JavaType} (h : Readable t) (scope : List String) :
    readTypeIn scope t.text = .ok (t.bind scope) := by
  rw [readTypeIn, ofTextIn, h.ofText_text]
  rfl

theorem Readable.readType_text {t : JavaType} (h : Readable t) : readType t.text = .ok t := by
  rw [readType, h.readTypeIn_text, bind_nil]

end JavaType

/-- A qualified name is read as the type of this name. -/
theorem readType_of_isQualified {name : String} (h : isQualified name = true) :
    readType name = .ok (.plain name) := by
  have hreadable : JavaType.Readable (.plain name) :=
    @JavaType.readable_named_plain name [] (isQualified_iff.1 h) nofun
  exact hreadable.readType_text

/-! ### Uses of declarations inside themselves -/

/-- The use of a declaration inside it is written with the names of its parameters. -/
theorem Declaration.text_declaredType (d : Declaration) :
    d.declaredType.text = (JavaType.named d.qualifiedName (d.typeParams.map .plain)).text := by
  have htext : ∀ ps : List String, JavaType.textRest (ps.map .var) =
      JavaType.textRest (ps.map .plain) := by
    intro ps
    induction ps with
    | nil => rfl
    | cons p ps ih =>
      rw [List.map_cons, List.map_cons, JavaType.textRest, JavaType.textRest, ih]
      rfl
  rw [Declaration.declaredType]
  cases d.typeParams with
  | nil => rfl
  | cons p ps =>
    rw [List.map_cons, List.map_cons, JavaType.text, JavaType.text, htext ps]
    rfl

/-- In the scope of its parameters, the use of a declaration with their names is the one that its
own members see. -/
theorem Declaration.bind_use (d : Declaration) :
    (JavaType.named d.qualifiedName (d.typeParams.map .plain)).bind d.typeParams =
      d.declaredType := by
  rw [declaredType]
  generalize hscope : d.typeParams = scope
  cases scope with
  | nil => rfl
  | cons p ps =>
    rw [List.map_cons, JavaType.bind, JavaType.bindAll_eq_map, ← List.map_cons, ← List.map_cons,
      List.map_map]
    refine congrArg _ (List.map_congr_left fun x hx => ?_)
    exact if_pos (List.contains_iff_mem.2 hx)

namespace Document

variable {doc : Document} {c : Catalog} {n : String} {d : Declaration}

/-- A catalog holds declarations with legal names only. -/
theorem legal_of_catalog (hload : doc.catalog = .ok c) (hd : c.find? n = some d) :
    isQualified d.qualifiedName = true ∧ ∀ p ∈ d.typeParams, isIdentifier p = true := by
  rcases Document.declared_of_catalog hload hd with ⟨t, -, ht⟩ | ⟨-, rfl⟩
  · obtain ⟨hname, -, hps, -, _, -, _, -, _, -, rfl⟩ := TypeEntry.declare_eq_ok_iff.1 ht
    exact ⟨hname, hps⟩
  · exact ⟨by decide +kernel, nofun⟩

/-- The use of a declaration with the names of its parameters as arguments can be read. -/
theorem readable_of_catalog (hload : doc.catalog = .ok c) (hd : c.find? n = some d) :
    JavaType.Readable (.named d.qualifiedName (d.typeParams.map .plain)) := by
  obtain ⟨hname, hps⟩ := legal_of_catalog hload hd
  exact JavaType.readable_named_plain (isQualified_iff.1 hname) hps

/-- **Every declared type can be written down.** A declaration of a catalog is read from its name as
the type without arguments of just this name. In the scope of its parameters it is read, from the
text of the type that its members see, as this type; the head of a generic type stays a name even if
a parameter has the same name. This is so because all names that loading accepts are read as they
are meant: an identifier as one word, and a qualified name as the type of this name. -/
theorem declared_types_reread (hload : doc.catalog = .ok c) (hd : c.find? n = some d) :
    readType d.qualifiedName = .ok (.plain d.qualifiedName) ∧
      readTypeIn d.typeParams d.declaredType.text = .ok d.declaredType ∧
      (∀ name, isQualified name = true → readType name = .ok (.plain name)) ∧
      ∀ name, isIdentifier name = true →
        ∃ tokens, Token.ofText name = .ok tokens ∧
          tokens.map Token.kind = [.word name, .finish] := by
  refine ⟨readType_of_isQualified (legal_of_catalog hload hd).1, ?_,
    fun _ => readType_of_isQualified, fun _ => exists_word_of_isIdentifier⟩
  rw [d.text_declaredType, (readable_of_catalog hload hd).readTypeIn_text, d.bind_use]

/-- A type with a parameter of its own name. The other is a letter and a number of other scripts. -/
def selfNamed : Document where
  types := .ofList [("T", { typeParams := ["T", "ж½"] })]

/-- The head of a type is no variable, even if a parameter has the same name. -/
theorem declared_types_reread_selfNamed :
    ∃ c d, selfNamed.catalog = .ok c ∧ c.find? "T" = some d ∧
      readType "T" = .ok (.plain "T") ∧
      readTypeIn ["T", "ж½"] "T<T, ж½>" = .ok (.named "T" [.var "T", .var "ж½"]) := by
  obtain ⟨c, hc, d, hd, hname, hparams⟩ := exists_of_eval selfNamed.catalog
    (fun c => ∃ d ∈ c.find? "T", d.qualifiedName = "T" ∧ d.typeParams = ["T", "ж½"])
    (by decide +kernel)
  obtain ⟨hplain, huse, -, -⟩ := declared_types_reread hc hd
  have htype : d.declaredType = .named "T" [.var "T", .var "ж½"] := by
    rw [Declaration.declaredType, hname, hparams]
    rfl
  have htext : d.declaredType.text = "T<T, ж½>" := by
    rw [htype]
    decide
  rw [hname] at hplain
  rw [htext, hparams, htype] at huse
  exact ⟨c, d, hc, hd, hplain, huse⟩

end Document

end BuilderPlanner
