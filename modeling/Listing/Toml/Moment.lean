import Listing.Text.Digits

/-!
# Dates and times

A TOML moment is a date, a time, or both with or without an offset from universal time. It is held
in its standard form: `T` between date and time, no needless zeros behind the seconds. A word of a
document is read strictly, a text that is said to be a moment more loosely.
-/

namespace Listing.Toml

/-- What numbers the parts of a moment may be. -/
structure MomentLimits where
  /-- The greatest hour of a time. -/
  hour : Nat
  /-- The greatest number of hours in an offset. -/
  offsetHour : Nat
  /-- The greatest number of minutes behind the hours of an offset. -/
  offsetMinute : Nat
  deriving DecidableEq, Repr

namespace MomentLimits

/-- The limits for words of a document. -/
def strict : MomentLimits := ⟨23, 23, 59⟩

/-- The limits for texts. An offset of two digits each is held against a whole day. -/
def loose : MomentLimits := ⟨24, 99, 99⟩

end MomentLimits

/-- The number of exactly `width` digits at the start of a text, and what follows. -/
def fixedNumber? (width : Nat) (t : Text) : Option (Nat × Text) :=
  let digits := t.take width
  if digits.length = width ∧ digits.all Char.isDigit then
    some (Nat.ofDigitChars 10 digits 0, t.drop width)
  else none

/-- A number of two digits up to `greatest` behind the mark `c`. -/
def partBehind? (c : Char) (greatest : Nat) : Text → Option (Nat × Text)
  | d :: t => if d = c then (fixedNumber? 2 t).filter (·.1 ≤ greatest) else none
  | [] => none

/-- The days of a month. -/
def daysOfMonth (year month : Nat) : Nat :=
  if month = 2 then
    if year % 4 = 0 ∧ (year % 100 ≠ 0 ∨ year % 400 = 0) then 29 else 28
  else if [4, 6, 9, 11].contains month then 30
  else 31

/-- The date at the start of a text, as it is written, and what follows. -/
def date? (t : Text) : Option (Text × Text) := do
  let (year, rest) ← fixedNumber? 4 t
  let (month, rest) ← partBehind? '-' 12 rest
  let (day, rest) ← partBehind? '-' (daysOfMonth year month) rest
  if month = 0 ∨ day = 0 then none else some (t.take 10, rest)

/-- The fraction of a second: at most nine digits count, and zeros at the end do not. -/
def fraction? : Text → Option (Text × Text)
  | '.' :: t =>
    let digits := t.takeWhile Char.isDigit
    if digits.isEmpty then none
    else
      match Text.trimEnd (· == '0') (digits.take 9) with
      | [] => some ([], t.dropWhile Char.isDigit)
      | kept => some ('.' :: kept, t.dropWhile Char.isDigit)
  | t => some ([], t)

/-- The time at the start of a text, in standard form, and what follows. -/
def time? (limits : MomentLimits) (t : Text) : Option (Text × Text) := do
  let (_, rest) ← (fixedNumber? 2 t).filter (·.1 ≤ limits.hour)
  let (_, rest) ← partBehind? ':' 59 rest
  let (_, rest) ← partBehind? ':' 60 rest
  let (fraction, rest) ← fraction? rest
  some (t.take 8 ++ fraction, rest)

/-- A number below a hundred in two digits. -/
def twoDigits (n : Nat) : Text := if n < 10 then '0' :: Text.ofNat n else Text.ofNat n

/-- The offset that a text consists of, in standard form. It is at most a day. -/
def offset? (limits : MomentLimits) (t : Text) : Option Text :=
  match t with
  | [] => some []
  | ['Z'] | ['z'] => some ['Z']
  | sign :: clock =>
    if sign = '+' ∨ sign = '-' then do
      let (hours, rest) ← (fixedNumber? 2 clock).filter (·.1 ≤ limits.offsetHour)
      let (minutes, rest) ← partBehind? ':' limits.offsetMinute rest
      let total := 60 * hours + minutes
      if rest ≠ [] ∨ 1440 < total then none
      else
        let sign := if total = 0 then '+' else sign
        some (sign :: twoDigits (total / 60) ++ ':' :: twoDigits (total % 60))
    else none

/-- The moment that a text stands for, in standard form. -/
def moment? (limits : MomentLimits) (t : Text) : Option Text :=
  match date? t with
  | some (date, []) => some date
  | some (date, c :: rest) =>
    if c = 'T' ∨ c = 't' ∨ c = ' ' then do
      let (time, rest) ← time? limits rest
      some (date ++ 'T' :: time ++ (← offset? limits rest))
    else none
  | none =>
    match time? limits t with
    | some (time, []) => some time
    | _ => none

end Listing.Toml
