import BuilderPlanner.Catalog.Creation

/-!
# Source texts

Text of a program that is put together piece by piece.

* `SourceText.append`, `SourceText.appendLine` — a piece, without and with a line end;
* `SourceText.appendNewBuilder` — the expression for a new builder.
-/

namespace BuilderPlanner

/-- A text that grows at its end. -/
structure SourceText where
  content : String := ""
  deriving DecidableEq, Repr

namespace SourceText

/-- Appends a piece. -/
def append (s : SourceText) (piece : String) : SourceText := ⟨s.content ++ piece⟩

/-- Appends a line. -/
def appendLine (s : SourceText) (line : String) : SourceText := ⟨s.content ++ line ++ "\n"⟩

/-- Appends the expression for a new builder of a type. -/
def appendNewBuilder (s : SourceText) (c : Catalog) (way : Creation) (t : JavaType) : SourceText :=
  s.append (c.newBuilder way t)

end SourceText

end BuilderPlanner
