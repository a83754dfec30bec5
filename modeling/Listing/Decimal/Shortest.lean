import Listing.Text.Basic

/-!
# Shortest decimals

A number of double precision is written with the fewest digits that read back as the same number; of
several such decimals the nearest is taken. `Binary.shortest` finds the digits in exact arithmetic:
for one digit, two digits and so on it tries the two decimals next to the number and takes the first
that lies close enough to round to it.
-/

namespace Listing.Decimal

/-- The positive number `mantissa · 2^exponent`. -/
structure Binary where
  mantissa : Nat
  exponent : Int
  /-- Whether the next smaller number is only half as far away as the next larger one. -/
  isNarrowBelow : Bool

/-- The number `0.d₁d₂… · 10^point` with the given digits. -/
structure Digits where
  digits : Text
  point : Int
  deriving DecidableEq, Repr

/-- A number of double precision. -/
inductive Double where
  | nan
  | infinite (negative : Bool)
  | zero (negative : Bool)
  | finite (negative : Bool) (value : Binary)

namespace Double

/-- Takes a number apart. -/
def ofFloat (x : Float) : Double :=
  let bits := x.toBits.toNat
  let negative := Nat.pow 2 63 ≤ bits
  let exponent : Nat := bits / Nat.pow 2 52 % 2048
  let fraction : Nat := bits % Nat.pow 2 52
  if exponent = 2047 then if fraction = 0 then .infinite negative else .nan
  else if exponent = 0 then
    if fraction = 0 then .zero negative else .finite negative ⟨fraction, -1074, false⟩
  else .finite negative ⟨Nat.pow 2 52 + fraction, (exponent : Int) - 1075, fraction = 0 && 1 < exponent⟩

end Double

/-- The zeros between the point and the first digit of `numerator / denominator`, a number below
    one. At most `fuel` of them are counted. -/
def zerosBehindPoint (numerator denominator : Nat) : (fuel : Nat) → Nat
  | 0 => 0
  | fuel + 1 =>
    if denominator ≤ 10 * numerator then 0
    else zerosBehindPoint (10 * numerator) denominator fuel + 1

namespace Binary

/-- The numerator and denominator of a quarter of the last place of the mantissa. -/
def quarter (b : Binary) : Nat × Nat :=
  let e := b.exponent - 2
  if 0 ≤ e then (Nat.pow 2 e.toNat, 1) else (1, Nat.pow 2 (-e).toNat)

/-- The place of the first digit: the number lies below `10^magnitude` and not below a tenth of
    it. -/
def magnitude (b : Binary) : Int :=
  let (unit, denominator) := b.quarter
  let numerator := 4 * b.mantissa * unit
  if denominator ≤ numerator then (Nat.toDigits 10 (numerator / denominator)).length
  else -(zerosBehindPoint numerator denominator 400 : Nat)

/-- A decimal of `n` digits that rounds to the number, the nearest if there are two. -/
def withDigits? (b : Binary) (n : Nat) : Option Digits :=
  let (unit, denominator) := b.quarter
  let place := b.magnitude - n
  -- All quantities are multiplied by `scale` and compared with multiples of `step`.
  let scale := unit * (if place < 0 then Nat.pow 10 (-place).toNat else 1)
  let step := denominator * (if 0 ≤ place then Nat.pow 10 place.toNat else 1)
  let value := 4 * b.mantissa * scale
  let low := (4 * b.mantissa - if b.isNarrowBelow then 1 else 2) * scale
  let high := (4 * b.mantissa + 2) * scale
  let reaches (x : Nat) : Bool :=
    if b.mantissa % 2 = 0 then low ≤ x && x ≤ high else low < x && x < high
  let below := value / step
  let chosen? : Option Nat :=
    match reaches (below * step), reaches ((below + 1) * step) with
    | true, true => some (if value - below * step < (below + 1) * step - value then below else below + 1)
    | true, false => some below
    | false, true => some (below + 1)
    | false, false => none
  chosen?.map fun chosen =>
    let digits := Nat.toDigits 10 chosen
    ⟨Text.trimEnd (· == '0') digits, place + digits.length⟩

/-- The shortest decimal that rounds to the number. Seventeen digits always do. -/
def shortest (b : Binary) : Digits :=
  ((List.range 17).findSome? fun n => b.withDigits? (n + 1)).getD ⟨[], 0⟩

end Binary

namespace Digits

/-- A decimal without an exponent. -/
def positional (d : Digits) : Text :=
  if d.point ≤ 0 then '0' :: '.' :: List.replicate (-d.point).toNat '0' ++ d.digits
  else if d.digits.length ≤ d.point then
    d.digits ++ List.replicate (d.point - d.digits.length).toNat '0'
  else d.digits.take d.point.toNat ++ '.' :: d.digits.drop d.point.toNat

end Digits

/-- A number of double precision, without an exponent and without a point if it is whole. -/
def text (x : Float) : Text :=
  let sign (negative : Bool) : Text := if negative then ['-'] else []
  match Double.ofFloat x with
  | .nan => "NaN".toList
  | .infinite negative => sign negative ++ "inf".toList
  | .zero negative => sign negative ++ ['0']
  | .finite negative value => sign negative ++ value.shortest.positional

/-- A number of double precision, with a point also if it is whole. -/
def pointedText (x : Float) : Text :=
  match Double.ofFloat x with
  | .zero _ | .finite _ _ => if (text x).contains '.' then text x else text x ++ ['.', '0']
  | _ => text x

end Listing.Decimal
