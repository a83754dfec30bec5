import Listing.Text.Basic

/-!
# Digits

Numbers in bases up to 16: reading their digits, in either case, and writing them.
-/

namespace Listing.Text

/-- The value of a digit up to `f`, in either case. -/
def digitValue? (c : Char) : Option Nat :=
  if c.isDigit then some (c.toNat - '0'.toNat)
  else if 'a' ≤ c ∧ c ≤ 'f' then some (c.toNat - 'a'.toNat + 10)
  else if 'A' ≤ c ∧ c ≤ 'F' then some (c.toNat - 'A'.toNat + 10)
  else none

/-- The number that a text spells in the given base behind digits that make up `n`. -/
def inBaseFrom? (base n : Nat) : Text → Option Nat
  | [] => some n
  | c :: t =>
    match digitValue? c with
    | some d => if d < base then inBaseFrom? base (base * n + d) t else none
    | none => none

/-- The number that a text spells in the given base; none for an empty text. -/
def inBase? (base : Nat) : Text → Option Nat
  | [] => none
  | t => inBaseFrom? base 0 t

/-- The base that the mark of a number such as `0x1F` stands for. -/
def baseOfMark? : Char → Option Nat
  | 'x' => some 16
  | 'o' => some 8
  | 'b' => some 2
  | _ => none

/-- The digits of a number in base 16, in upper case and at least `width` of them. -/
def hex (width n : Nat) : Text :=
  let digits := toUpper (Nat.toDigits 16 n)
  List.replicate (width - digits.length) '0' ++ digits

end Listing.Text
