/-!
# Spans of code points

A property of characters is given by an ascending list of `Span`s, each a run of code points that
are a fixed step apart.

* `Span.covers` — the code points of one span;
* `Span.anyCovers` — membership in an ascending list of spans, which stops at the first span that
  starts beyond the code point.
-/

namespace BuilderPlanner.Unicode

/-- The code points `first`, `first + step`, … up to `last`. -/
structure Span where
  first : Nat
  last : Nat
  step : Nat
  deriving DecidableEq, Repr

namespace Span

/-- Whether a code point belongs to the span. -/
def covers (s : Span) (code : Nat) : Bool :=
  s.first ≤ code && code ≤ s.last && (code - s.first) % s.step == 0

/-- Whether a code point belongs to a span of an ascending list. -/
def anyCovers : List Span → Nat → Bool
  | [], _ => false
  | s :: rest, code =>
    if code < s.first then false
    else if code ≤ s.last then s.covers code
    else anyCovers rest code

end Span

end BuilderPlanner.Unicode
