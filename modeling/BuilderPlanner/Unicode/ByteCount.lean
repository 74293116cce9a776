/-!
# The length of texts in bytes

Places in texts are counted in bytes of the UTF-8 encoding.

* `byteCount` — the number of bytes of a text, which adds up over its parts.
-/

namespace BuilderPlanner

/-- The number of bytes of a text in UTF-8. -/
def byteCount (cs : List Char) : Nat := cs.foldl (fun n c => n + c.utf8Size) 0

theorem foldl_utf8Size (cs : List Char) (n : Nat) :
    cs.foldl (fun n c => n + c.utf8Size) n = n + byteCount cs := by
  induction cs generalizing n with
  | nil => rfl
  | cons c cs ih =>
    rw [byteCount, List.foldl_cons, List.foldl_cons, ih, ih, Nat.zero_add, Nat.add_assoc]

@[simp]
theorem byteCount_cons (c : Char) (cs : List Char) :
    byteCount (c :: cs) = c.utf8Size + byteCount cs := by
  rw [byteCount, List.foldl_cons, foldl_utf8Size, Nat.zero_add]

theorem byteCount_singleton (c : Char) : byteCount [c] = c.utf8Size := Nat.zero_add _

@[simp]
theorem byteCount_append (as bs : List Char) :
    byteCount (as ++ bs) = byteCount as + byteCount bs := by
  rw [byteCount, List.foldl_append, foldl_utf8Size]
  rfl

end BuilderPlanner
