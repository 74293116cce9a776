/-!
# The shortest decimal of a binary number

A binary floating point number of 64 bits stands for all reals that round to it. Among the decimals
in that interval the shortest is the one with the fewest digits and, of these, the nearest.

* `Binary` — a positive number `significand * 2 ^ exponent`, and `Binary.ofBits?` — its decoding;
* `Decimal` — a positive number `digits * 10 ^ exponent`;
* `Binary.shortest` — the shortest decimal that rounds to a binary number.
-/

namespace BuilderPlanner

/-- The positive number `significand * 2 ^ exponent`. -/
structure Binary where
  significand : Nat
  exponent : Int
  deriving DecidableEq, Repr

/-- The number `digits * 10 ^ exponent`. -/
structure Decimal where
  digits : Nat
  exponent : Int
  deriving DecidableEq, Repr

namespace Binary

/-- The least exponent of a number of 64 bits. -/
def leastExponent : Int := -1074

/-- The least significand of a normal number, two to the power of 52. -/
def leastNormal : Nat := 0x10000000000000

/-- Decodes the magnitude of a finite number other than zero. -/
def ofBits? (bits : UInt64) : Option Binary :=
  let fraction := bits.toNat % leastNormal
  let field := bits.toNat / leastNormal % 2048
  if field = 2047 then none
  else if field = 0 then if fraction = 0 then none else some ⟨fraction, leastExponent⟩
  else some ⟨leastNormal + fraction, leastExponent + (field - 1 : Nat)⟩

/-- The number as a fraction whose parts are multiplied by four. -/
def quarters (b : Binary) : Nat × Nat :=
  (4 * b.significand * Nat.pow 2 b.exponent.toNat, 4 * Nat.pow 2 (-b.exponent).toNat)

/-- The ends of the interval that rounds to the number, over the denominator of `quarters`. -/
def interval (b : Binary) : Nat × Nat :=
  let unit := Nat.pow 2 b.exponent.toNat
  let below := if b.significand = leastNormal ∧ b.exponent ≠ leastExponent then 1 else 2
  ((4 * b.significand - below) * unit, (4 * b.significand + 2) * unit)

/-- The power of ten of a positive exponent; one for the others. -/
def tens (k : Int) : Nat := Nat.pow 10 k.toNat

/-- Whether the decimal `d * 10 ^ k` rounds to the number. Ends belong to even significands. -/
def roundsFrom (b : Binary) (d : Nat) (k : Int) : Bool :=
  let x := d * tens k * b.quarters.2
  let scale := tens (-k)
  let low := b.interval.1 * scale
  let high := b.interval.2 * scale
  if b.significand % 2 = 0 then low ≤ x && x ≤ high else low < x && x < high

/-- The largest `e ≤ start` within `fuel` places with `10 ^ e` not above the number. -/
def magnitudeFrom (b : Binary) : Nat → Int → Int
  | 0, e => e
  | fuel + 1, e =>
    if tens e * b.quarters.2 ≤ b.quarters.1 * tens (-e) then e
    else b.magnitudeFrom fuel (e - 1)

/-- The exponent of the first decimal digit. -/
def magnitude (b : Binary) : Int := b.magnitudeFrom 640 309

/-- The nearest decimal on the grid of multiples of `10 ^ k` that rounds to the number. -/
def onGrid? (b : Binary) (k : Int) : Option Decimal :=
  let scaled := b.quarters.1 * tens (-k)
  let unit := tens k * b.quarters.2
  let low := scaled / unit
  let remainder := scaled % unit
  match b.roundsFrom low k, b.roundsFrom (low + 1) k with
  | true, true =>
    if 2 * remainder < unit ∨ 2 * remainder = unit ∧ low % 2 = 0 then some ⟨low, k⟩
    else some ⟨low + 1, k⟩
  | true, false => some ⟨low, k⟩
  | false, true => some ⟨low + 1, k⟩
  | false, false => none

/-- The shortest decimal that rounds to the number: the first that a grid of one, two, … digits
has. Seventeen digits always do. -/
def shortest (b : Binary) : Decimal :=
  ((List.range 17).findSome? fun (n : Nat) => b.onGrid? (b.magnitude - n)).getD ⟨0, 0⟩

end Binary

end BuilderPlanner
