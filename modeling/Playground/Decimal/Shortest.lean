import Playground.Decimal.Binary

namespace Playground.Decimal

/-- The decimal `digits * 10 ^ exponent`. -/
structure Digits where
  digits : Nat
  exponent : Int
deriving Repr, DecidableEq

/-- Four times a value as a quotient, with the two ends of its rounding interval over the same denominator. -/
structure Interval where
  low : Nat
  value : Nat
  high : Nat
  denominator : Nat
  /-- Whether the ends themselves belong to the interval. -/
  closed : Bool

/-- The reals that round to a magnitude: half a gap down and half a gap up, ends included for an even mantissa. -/
def Binary.interval (b : Binary) : Interval :=
  let up := if b.scale < 0 then 1 else 1 <<< b.scale.natAbs
  let down := if b.scale < 0 then 1 <<< b.scale.natAbs else 1
  { low := (4 * b.mantissa - if b.narrowBelow then 1 else 2) * up
    value := 4 * b.mantissa * up
    high := (4 * b.mantissa + 2) * up
    denominator := 4 * down
    closed := b.mantissa % 2 == 0 }

def powerOfTen (n : Nat) : Nat := Nat.pow 10 n

def Interval.contains (i : Interval) (d : Nat) (e : Int) : Bool :=
  let point := if e < 0 then d * i.denominator else d * powerOfTen e.natAbs * i.denominator
  let shift := if e < 0 then powerOfTen e.natAbs else 1
  if i.closed then i.low * shift ≤ point && point ≤ i.high * shift
  else i.low * shift < point && point < i.high * shift

/-- The decimal with unit `10 ^ e` that lies in the interval and is nearest to the value, if there is one. -/
def Interval.onGrid? (i : Interval) (e : Int) : Option Digits :=
  let numerator := if e < 0 then i.value * powerOfTen e.natAbs else i.value
  let denominator := if e < 0 then i.denominator else i.denominator * powerOfTen e.natAbs
  let below := numerator / denominator
  let nearest := roundEven numerator denominator
  let other := if nearest == below then below + 1 else below
  if i.contains nearest e then some ⟨nearest, e⟩
  else if i.contains other e then some ⟨other, e⟩
  else none

/-- The least power of ten, counted up from `10 ^ -330`, that is greater than the value. -/
def Interval.magnitude (i : Interval) : Int :=
  let rec climb : Nat → Int → Int
    | 0, e => e
    | steps + 1, e =>
      let isBelow := if e < 0 then i.value * powerOfTen e.natAbs < i.denominator
        else i.value < i.denominator * powerOfTen e.natAbs
      if isBelow then e else climb steps (e + 1)
  climb 650 (-330)

/-- A decimal without trailing zeros in its digits; `fuel` bounds their number. -/
def Digits.stripZeros : Nat → Digits → Digits
  | 0, d => d
  | fuel + 1, d =>
    if d.digits != 0 && d.digits % 10 == 0 then stripZeros fuel ⟨d.digits / 10, d.exponent + 1⟩ else d

/-- The decimal with the fewest digits that identifies a positive magnitude. Seventeen digits always
suffice; the exact value stands in otherwise. -/
def Binary.shortest (b : Binary) : Digits :=
  let i := b.interval
  let top := i.magnitude
  match (List.range 17).findSome? fun (n : Nat) => i.onGrid? (top - n - 1) with
  | some d => d.stripZeros 20
  | none =>
    if b.scale < 0 then ⟨b.mantissa * Nat.pow 5 b.scale.natAbs, b.scale⟩
    else ⟨b.mantissa <<< b.scale.natAbs, 0⟩

end Playground.Decimal
