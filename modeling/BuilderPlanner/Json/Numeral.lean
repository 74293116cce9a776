import BuilderPlanner.Json.Fault

/-!
# Numbers of JSON texts

A number is written with a whole part, a fraction and a power of ten. It denotes an integer when it
has neither fraction nor power and fits into 64 bits, and a floating point number otherwise.

* `Numeral` — the written parts;
* `Numeral.denote` — the number, unless it is too large.

Digits beyond the sixty-four bits of the significand only count as powers of ten, and the significand
is scaled by one floating point operation, so the last bit of a long number may differ from the
nearest one.
-/

namespace BuilderPlanner.Json

/-- The parts of a written number; digits are given by their values. -/
structure Numeral where
  negative : Bool
  whole : List Nat
  fraction : Option (List Nat)
  /-- The sign, true for negative, and the digits of the power of ten. -/
  power : Option (Bool × List Nat)
  deriving DecidableEq, Repr

/-- The first number that does not fit into 64 bits. -/
def wordLimit : Nat := 0x10000000000000000

/-- From this power of ten on, the sign of the power alone decides. -/
def powerLimit : Nat := 0x80000000

/-- Appends digits to a significand as long as it fits, and gives the digits that are left. -/
def appendDigits (significand : Nat) : List Nat → Nat × List Nat
  | [] => (significand, [])
  | d :: rest =>
    if significand * 10 + d < wordLimit then appendDigits (significand * 10 + d) rest
    else (significand, d :: rest)

/-- The largest power of ten among the floating point numbers. -/
def greatestPower : Nat := 308

/-- A power of ten as a floating point number. -/
def tenTo (n : Nat) : Float := Float.ofScientific 1 false n

/-- Multiplies by `10 ^ power`. Nothing comes out when the product is too large. -/
def scaleByTen (f : Float) (power : Int) : Option Float :=
  if 0 ≤ power then
    if power ≤ greatestPower then
      let g := f * tenTo power.toNat
      if g.isInf then none else some g
    else if f == 0 then some f else none
  else if -greatestPower ≤ power then some (f / tenTo (-power).toNat)
  else if f == 0 then some f
  else scaleByTen (f / tenTo greatestPower) (power + greatestPower)
  termination_by (-power).toNat
  decreasing_by simp only [greatestPower] at *; omega

namespace Numeral

/-- The floating point number for a significand and a power of ten. -/
def float? (negative : Bool) (significand : Nat) (power : Int) : Option Found :=
  (scaleByTen (UInt64.ofNat significand).toFloat power).map fun f =>
    .float (if negative then -f else f).toBits

/-- The number that is written, if it is not too large. -/
def denote (n : Numeral) : Option Found :=
  let (significand, beyond) := appendDigits 0 n.whole
  match n.fraction, n.power with
  | none, none =>
    if beyond ≠ [] then float? n.negative significand beyond.length
    else if !n.negative then some (.integer significand)
    else if significand = 0 ∨ wordLimit / 2 < significand then float? true significand 0
    else some (.integer (-significand))
  | fraction, power =>
    let places := fraction.getD []
    let (significand, ignored) := appendDigits significand places
    let shift : Int := beyond.length - (places.length - ignored.length : Nat)
    match power with
    | none => float? n.negative significand shift
    | some (below, digits) =>
      let size := digits.foldl (fun a d => a * 10 + d) 0
      if size < powerLimit then
        float? n.negative significand (shift + if below then -(size : Int) else size)
      else if significand = 0 ∨ below then float? n.negative 0 0
      else none

end Numeral

end BuilderPlanner.Json
