namespace Gatekeeper.Decimal

/-- A positive finite double, `mantissa * 2 ^ exponent`. `narrowBelow` holds where the next double
below is half as far away as the next one above. -/
structure Binary where
  mantissa : Nat
  exponent : Int
  narrowBelow : Bool

/-- The magnitude behind a bit pattern, unless it is zero, infinite or not a number. -/
def Binary.ofBits? (bits : UInt64) : Option Binary :=
  let field := (bits >>> 52).toNat % 2048
  let fraction := bits.toNat % Nat.pow 2 52
  if field = 2047 then none
  else if field = 0 then
    if fraction = 0 then none else some ⟨fraction, -1074, false⟩
  else some ⟨Nat.pow 2 52 + fraction, (field : Int) - 1075, fraction = 0 && 1 < field⟩

/-- The value and the two ends of the reals that round to it, over one denominator. -/
structure Interval where
  low : Nat
  value : Nat
  high : Nat
  denominator : Nat
  closed : Bool

def Binary.interval (b : Binary) : Interval :=
  let up := Nat.pow 2 b.exponent.toNat
  let down := Nat.pow 2 (-b.exponent).toNat
  { low := (4 * b.mantissa - (if b.narrowBelow then 1 else 2)) * up
    value := 4 * b.mantissa * up
    high := (4 * b.mantissa + 2) * up
    denominator := 4 * down
    closed := b.mantissa % 2 = 0 }

/-- Whether `n / denominator` rounds to the value. -/
def Interval.contains (i : Interval) (n : Nat) : Bool :=
  if i.closed then i.low ≤ n && n ≤ i.high else i.low < n && n < i.high

/-- The same interval with every bound multiplied, so that the grid of step `10 ^ k` is the
integers. -/
def Interval.onGrid (i : Interval) (k : Int) : Interval :=
  let up := Nat.pow 10 (-k).toNat
  { i with
    low := i.low * up
    value := i.value * up
    high := i.high * up
    denominator := i.denominator * Nat.pow 10 k.toNat }

/-- The grid point of the interval that is nearest to the value, the even one of two at the same
distance. -/
def Interval.nearest? (i : Interval) : Option Nat :=
  let below := i.value / i.denominator
  let above := below + 1
  let toBelow := i.value - below * i.denominator
  let toAbove := above * i.denominator - i.value
  match i.contains (below * i.denominator), i.contains (above * i.denominator) with
  | true, true =>
    if toBelow < toAbove || (toBelow = toAbove && below % 2 = 0) then some below else some above
  | true, false => some below
  | false, true => some above
  | false, false => none

def search (i : Interval) : Nat → Int → Nat × Int
  | 0, k => (0, k)
  | fuel + 1, k =>
    match (i.onGrid k).nearest? with
    | some n => (n, k)
    | none => search i fuel (k - 1)

/-- The coarsest decimal grid that has a point among the reals that round to the double, and the
point of it that is nearest, as digits and power of ten. The first grid tried is coarser than the
value, the last finer than any double. -/
def shortest (b : Binary) : Nat × Int :=
  let i := b.interval
  let start := (Nat.toDigits 10 (i.high / i.denominator)).length
  search i (start + 345) start

end Gatekeeper.Decimal
