import TypeLowering.Binary64.Shortest

/-!
# Binary fractions to a number of places

A number written with a chosen number of places: behind the point, behind the first digit with an
exponent, or in all, whichever of the two is shorter. Digits are those of the exact value, rounded
to the nearest; of two that are equally near, the even one is taken.
-/

namespace TypeLowering

/-- How the digits of a rounded number are laid out. -/
inductive Digits where
  /-- The chosen number of places stand behind the point. -/
  | fixed
  /-- One digit stands before the point, the chosen number behind it, and an exponent follows. -/
  | scientific
  /-- The chosen number of digits in all, without zeros at the end, with an exponent only for small
  and for large numbers. -/
  | general
  deriving DecidableEq, Repr

namespace Ratio

/-- Decimal digits, with zeros in front up to the given number of them. -/
def digitsOf (width n : Nat) : List Char :=
  let ds := Nat.toDigits 10 n
  List.replicate (width - ds.length) '0' ++ ds

/-- The first digits of a ratio, rounded, and the exponent of the first of them. -/
def leadingDigits (r : Ratio) (count : Nat) : List Char × Int :=
  if r.num = 0 then (List.replicate count '0', 0)
  else
    let exponent := r.log 10
    let ds := Nat.toDigits 10 (r.scale 10 (count - 1 - exponent)).round
    if count < ds.length then (ds.take count, exponent + 1) else (ds, exponent)

/-- Digits before and behind a point. The point is left out in front of nothing unless it is
kept. -/
def pointed (keepsPoint : Bool) (before behind : List Char) : List Char :=
  before ++ if behind.isEmpty && !keepsPoint then [] else '.' :: behind

/-- The digits without the zeros at their end. -/
def withoutZeros (ds : List Char) : List Char :=
  (ds.reverse.dropWhile (· = '0')).reverse

/-- The text of a ratio with places behind the point. -/
def fixed (r : Ratio) (places : Nat) (keepsPoint : Bool) : List Char :=
  let ds := digitsOf (places + 1) (r.scale 10 places).round
  pointed keepsPoint (ds.take (ds.length - places)) (ds.drop (ds.length - places))

/-- The text of a ratio with an exponent. -/
def scientific (r : Ratio) (places : Nat) (keepsPoint : Bool) : List Char :=
  let d := r.leadingDigits (places + 1)
  pointed keepsPoint (d.1.take 1) (d.1.drop 1) ++ (Binary64.exponentText d.2).toList

/-- The text of a ratio with a number of digits in all, which is at least one. If the point is kept,
so are the zeros at the end. -/
def general (r : Ratio) (count : Nat) (keepsPoint : Bool) : List Char :=
  let count := max 1 count
  let d := r.leadingDigits count
  let trim (ds : List Char) := if keepsPoint then ds else withoutZeros ds
  if -4 ≤ d.2 ∧ d.2 < count then
    if d.2 < 0 then
      pointed keepsPoint ['0'] (trim (List.replicate (d.2.natAbs - 1) '0' ++ d.1))
    else
      pointed keepsPoint (d.1.take (d.2.toNat + 1)) (trim (d.1.drop (d.2.toNat + 1)))
  else pointed keepsPoint (d.1.take 1) (trim (d.1.drop 1)) ++ (Binary64.exponentText d.2).toList

/-- The text of a ratio in a layout of digits. -/
def laidOut (r : Ratio) : Digits → Nat → Bool → List Char
  | .fixed => r.fixed
  | .scientific => r.scientific
  | .general => r.general

end Ratio

namespace Binary64

/-- Whether a number is written with a sign in front. -/
def isNegative : Binary64 → Bool
  | .finite negative _ _ | .infinite negative => negative
  | .undefined => false

/-- The text of a number without its sign in a layout of digits. -/
def laidOut (digits : Digits) (places : Nat) (keepsPoint : Bool) : Binary64 → List Char
  | .finite _ significand exponent => (ratio significand exponent).laidOut digits places keepsPoint
  | .infinite _ => "inf".toList
  | .undefined => "nan".toList

end Binary64

end TypeLowering
