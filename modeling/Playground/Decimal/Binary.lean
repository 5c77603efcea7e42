namespace Playground.Decimal

/-- The finite magnitude `mantissa * 2 ^ scale`. The gap to the value below is half as wide as the gap above
when `narrowBelow` is set. -/
structure Binary where
  mantissa : Nat
  scale : Int
  narrowBelow : Bool
deriving Repr, DecidableEq

inductive Parts where
  | nan
  | infinite (negative : Bool)
  | finite (negative : Bool) (magnitude : Binary)
deriving Repr, DecidableEq

def Parts.ofFloat (x : Float) : Parts :=
  let bits : Nat := x.toBits.toNat
  let negative := bits >>> 63 == 1
  let exponent : Nat := (bits >>> 52) % 2048
  let fraction : Nat := bits % (1 <<< 52)
  if exponent == 2047 then
    if fraction == 0 then .infinite negative else .nan
  else if exponent == 0 then .finite negative ⟨fraction, -1074, false⟩
  else .finite negative ⟨1 <<< 52 + fraction, (exponent : Int) - 1075, fraction == 0 && exponent > 1⟩

def Binary.floor (b : Binary) : Nat :=
  if b.scale < 0 then b.mantissa >>> b.scale.natAbs else b.mantissa <<< b.scale.natAbs

/-- The quotient rounded to the nearest natural number, a half to the even one. -/
def roundEven (numerator denominator : Nat) : Nat :=
  let quotient := numerator / denominator
  let twice := 2 * (numerator % denominator)
  if twice < denominator then quotient
  else if twice > denominator then quotient + 1
  else if quotient % 2 == 0 then quotient else quotient + 1

def Binary.roundTimes (b : Binary) (factor : Nat) : Nat :=
  if b.scale < 0 then roundEven (b.mantissa * factor) (1 <<< b.scale.natAbs)
  else (b.mantissa <<< b.scale.natAbs) * factor

end Playground.Decimal
