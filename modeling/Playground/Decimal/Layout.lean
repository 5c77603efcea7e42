import Playground.Decimal.Shortest
import Playground.Text.Basic

namespace Playground.Decimal

/-- The decisions of a number format. A decimal is written positionally when the exponent of its leading
digit is at least `plainFrom` and below `plainBelow`, and otherwise with a signed exponent. -/
structure Layout where
  plainFrom : Int
  plainBelow : Int
  exponentWidth : Nat
  nan : String
  infinity : String

def padded (width n : Nat) : Text :=
  let digits := Text.ofNat n
  List.replicate (width - digits.length) '0' ++ digits

/-- A positive decimal in a layout. Positional numbers keep a fraction, if only a zero. -/
def Layout.digits (l : Layout) (d : Digits) : Text :=
  let ds := Text.ofNat d.digits
  let point : Int := ds.length + d.exponent
  let leading := point - 1
  if l.plainFrom ≤ leading && leading < l.plainBelow then
    if point ≤ 0 then '0' :: '.' :: List.replicate point.natAbs '0' ++ ds
    else if (ds.length : Int) ≤ point then ds ++ List.replicate (point.natAbs - ds.length) '0' ++ ['.', '0']
    else ds.take point.natAbs ++ '.' :: ds.drop point.natAbs
  else
    let fraction := match ds.drop 1 with
      | [] => []
      | rest => '.' :: rest
    let sign := if leading < 0 then '-' else '+'
    ds.take 1 ++ fraction ++ 'e' :: sign :: padded l.exponentWidth leading.natAbs

def Layout.float (l : Layout) (x : Float) : Text :=
  let signed (negative : Bool) (t : Text) := if negative then '-' :: t else t
  match Parts.ofFloat x with
  | .nan => l.nan.toList
  | .infinite negative => signed negative l.infinity.toList
  | .finite negative b => signed negative (if b.mantissa == 0 then "0.0".toList else l.digits b.shortest)

/-- A float with two places. The exact value is rounded, a half to the even neighbour. -/
def twoPlaces (x : Float) : Text :=
  match Parts.ofFloat x with
  | .nan => "nan".toList
  | .infinite negative => if negative then "-inf".toList else "inf".toList
  | .finite negative b =>
    let digits := padded 3 (b.roundTimes 100)
    let whole := digits.length - 2
    (if negative then ['-'] else []) ++ digits.take whole ++ '.' :: digits.drop whole

end Playground.Decimal
