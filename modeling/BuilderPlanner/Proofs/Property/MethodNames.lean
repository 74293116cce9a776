import BuilderPlanner.Property.MethodNames
import BuilderPlanner.Proofs.Property.Conventions

/-!
# Names of builder methods are different

The getter keeps its name. Each other builder method is called by the name of the property with a
capital, in a frame of its own.

* `methodFrames`, `map_snd_methodNames` — the frames;
* `methodFrame_inj` — one text in two frames gives two names;
* `nodup_methodNames_iff` — only the getter can be called like another method;
* `nodup_methodNames` — the getter of a property of a surface is not.
-/

namespace BuilderPlanner

/-! ### Frames -/

/-- What stands before and after the name of a property in the names of its builder methods. -/
def methodFrames : List (String × String) :=
  [("set", ""), ("setNullable", ""), ("get", "Builder"), ("add", ""), ("addAll", ""),
    ("addCopiesTo", ""), ("put", ""), ("putAll", ""), ("remove", ""), ("removeAll", ""),
    ("setCount", ""), ("map", ""), ("mutate", ""), ("clear", "")]

theorem map_snd_methodNames (p : Property) :
    p.methodNames.toList.map Prod.snd =
      p.getter :: methodFrames.map fun f => f.1 ++ p.capitalized ++ f.2 := by
  simp [Property.methodNames, MethodNames.toList, methodFrames]

theorem nodup_methodFrames : methodFrames.Nodup := by decide

theorem toList_ne_nil_of_mem_methodFrames : ∀ f ∈ methodFrames, f.1.toList ≠ [] := by
  decide

theorem head?_ne_of_mem_methodFrames : ∀ f ∈ methodFrames, f.1.toList.head? ≠ some 'i' := by
  decide

/-- There is one frame that begins like a getter, and it is the one that has something behind the
name. -/
theorem methodFrames_cases :
    ∀ f ∈ methodFrames, f = ("get", "Builder") ∨ f.2 = "" ∧ f.1.toList.head? ≠ some 'g' := by
  decide

section

variable {f g : String × String} {s : String}

theorem head?_methodFrame (hf : f ∈ methodFrames) (s : String) :
    (f.1 ++ s ++ f.2).toList.head? = f.1.toList.head? := by
  rw [String.append_assoc, String.toList_append]
  exact List.head?_append_of_ne_nil _ (toList_ne_nil_of_mem_methodFrames f hf)

theorem length_lt_length_methodFrame (hf : f ∈ methodFrames) (s : String) :
    s.length < (f.1 ++ s ++ f.2).length := by
  have hpos : 0 < f.1.length := List.length_pos_of_ne_nil (toList_ne_nil_of_mem_methodFrames f hf)
  rw [String.length_append, String.length_append]
  omega

/-- The same text in two frames gives two names. -/
theorem methodFrame_inj (hf : f ∈ methodFrames) (hg : g ∈ methodFrames)
    (h : f.1 ++ s ++ f.2 = g.1 ++ s ++ g.2) : f = g := by
  have hhead : f.1.toList.head? = g.1.toList.head? := by
    rw [← head?_methodFrame hf s, ← head?_methodFrame hg s, h]
  rcases methodFrames_cases f hf with rfl | ⟨hfback, hfhead⟩ <;>
    rcases methodFrames_cases g hg with rfl | ⟨hgback, hghead⟩
  · rfl
  · exact absurd hhead.symm hghead
  · exact absurd hhead hfhead
  · rw [hfback, hgback, String.append_empty, String.append_empty] at h
    exact Prod.ext ((String.append_left_inj s).1 h) (hfback.trans hgback.symm)

end

/-! ### Names of a property -/

section

variable {p : Property}

/-- Names of a property repeat only if its getter is called like another builder method. -/
theorem nodup_methodNames_iff :
    (p.methodNames.toList.map Prod.snd).Nodup ↔
      ∀ f ∈ methodFrames, p.getter ≠ f.1 ++ p.capitalized ++ f.2 := by
  have hframes : (methodFrames.map fun f => f.1 ++ p.capitalized ++ f.2).Nodup :=
    List.Nodup.map_on (fun _ hf _ hg h => methodFrame_inj hf hg h) nodup_methodFrames
  rw [map_snd_methodNames, List.nodup_cons, and_iff_left hframes, List.mem_map]
  constructor
  · intro h f hf heq
    exact h ⟨f, hf, heq.symm⟩
  · intro h hmem
    obtain ⟨f, hf, heq⟩ := hmem
    exact h f hf heq.symm

/-- Properties that come from no getter may be called so that names repeat. -/
example :
    ¬((Property.ofName "x" "setX" (.plain "int")).methodNames.toList.map Prod.snd).Nodup := by
  decide +kernel

/-- A name with a capital is not shorter than the name, so it is too long for a frame. -/
theorem Property.IsKept.getter_ne (h : p.IsKept) {f : String × String} (hf : f ∈ methodFrames) :
    p.getter ≠ f.1 ++ p.capitalized ++ f.2 := by
  intro heq
  have hlt := length_lt_length_methodFrame hf p.capitalized
  have hle := length_le_length_capitalize p.getter
  rw [← h.capitalized_eq] at hle
  rw [← heq] at hlt
  omega

/-- Frames begin otherwise than getters, but for one that has something behind the name. -/
theorem Property.IsShort.getter_ne (h : p.IsShort) {f : String × String} (hf : f ∈ methodFrames) :
    p.getter ≠ f.1 ++ p.capitalized ++ f.2 := by
  intro heq
  have hhead := head?_methodFrame hf p.capitalized
  rw [← heq] at hhead
  rcases h.getter_eq with hget | ⟨-, his⟩
  · rcases methodFrames_cases f hf with rfl | ⟨-, hne⟩
    · have hlength :
          ("get" ++ p.capitalized).length = ("get" ++ p.capitalized ++ "Builder").length :=
        congrArg String.length (hget.symm.trans heq)
      have hback : 0 < "Builder".length := by decide
      rw [String.length_append _ "Builder"] at hlength
      omega
    · rw [hget, String.toList_append] at hhead
      exact hne hhead.symm
  · rw [his, String.toList_append] at hhead
    exact head?_ne_of_mem_methodFrames f hf hhead.symm

/-- **Names of builder methods.** The fifteen names of a property that a surface gives are different
from each other, whatever the getter is called and whether its name was kept. -/
theorem nodup_methodNames {members : List Member} {convention : Convention}
    (hp : p ∈ propertiesOf members convention) :
    (p.methodNames.toList.map Prod.snd).length = 15 ∧
      (p.methodNames.toList.map Prod.snd).Nodup := by
  refine ⟨rfl, nodup_methodNames_iff.2 fun f hf => ?_⟩
  rcases isKept_or_isShort_of_mem hp with hkept | hshort
  · exact hkept.getter_ne hf
  · exact hshort.getter_ne hf

/-- A getter whose first character has two characters as upper case. -/
theorem nodup_methodNames_longer :
    let p := Property.ofName "ßet" "ßet" (.plain "int")
    p ∈ propertiesOf [⟨"ßet", "a.House", [], .plain "int", .everywhere, [], true⟩] .auto ∧
      p.capitalized = "SSet" ∧ (p.methodNames.toList.map Prod.snd).length = 15 ∧
      (p.methodNames.toList.map Prod.snd).Nodup := by
  intro p
  have hp : p ∈ propertiesOf
      [⟨"ßet", "a.House", [], .plain "int", .everywhere, [], true⟩] .auto := by decide +kernel
  exact ⟨hp, by decide +kernel, nodup_methodNames hp⟩

end

end BuilderPlanner
