import TypeLowering.Ratio

/-!
# Binary fractions

Numbers that are written with a point or an exponent stand for binary floating point numbers of 64
bits: whole numbers of at most 53 binary digits times a power of two that is not below `2⁻¹⁰⁷⁴`,
and less than `2¹⁰²⁴`. A finite one is kept in lowest terms, so that equal numbers of one sign are
the same value.
-/

namespace TypeLowering

/-- A binary fraction `± significand · 2 ^ exponent`, or what is beyond all of them, or no
number. -/
inductive Binary64 where
  | finite (negative : Bool) (significand : Nat) (exponent : Int)
  | infinite (negative : Bool)
  | undefined
  deriving DecidableEq, Repr

namespace Binary64

/-- Moves factors of a base from a number into the exponent. -/
def lowestTerms (base n : Nat) (exponent : Int) : Nat × Int :=
  if _h : n ≠ 0 ∧ 1 < base ∧ n % base = 0 then lowestTerms base (n / base) (exponent + 1)
  else (n, if n = 0 then 0 else exponent)
termination_by n
decreasing_by
  exact Nat.div_lt_self (by omega) (by omega)

/-- The binary fraction that is nearest to a ratio; of two that are equally near, the one whose last
binary digit is zero. -/
def ofRatio (negative : Bool) (r : Ratio) : Binary64 :=
  if r.num = 0 then .finite negative 0 0
  else
    let exponent := max (r.log 2 - 52) (-1074)
    let significand := (r.scale 2 (-exponent)).round
    if 1024 ≤ significand.log2 + exponent then .infinite negative
    else
      let t := lowestTerms 2 significand exponent
      .finite negative t.1 t.2

/-- The binary fraction that is nearest to `± digits · 10 ^ exponent`. Far beyond the range of
binary fractions the powers need not be computed. -/
def ofDigits (negative : Bool) (digits : Nat) (exponent : Int) : Binary64 :=
  let size := (Ratio.digitCount 10 digits : Int) + exponent
  if digits = 0 ∨ size < -330 then .finite negative 0 0
  else if 310 < size then .infinite negative
  else ofRatio negative (.ofScaled digits 10 exponent)

/-- The binary fraction that is nearest to a whole number. -/
def ofWhole (n : Int) : Binary64 :=
  ofRatio (n < 0) ⟨n.natAbs, 1⟩

/-- A magnitude with a sign. -/
def signed (negative : Bool) (n : Nat) : Int :=
  if negative then -n else n

/-- The whole number that a binary fraction in lowest terms is, if it is one. -/
def whole? : Binary64 → Option Int
  | .finite negative significand exponent =>
    if 0 ≤ exponent then some (signed negative (significand * Nat.pow 2 exponent.toNat)) else none
  | _ => none

/-- The magnitude of a finite number. -/
def ratio (significand : Nat) (exponent : Int) : Ratio :=
  .ofScaled significand 2 exponent

/-- The whole number that is left without the part behind the point. -/
def truncated? : Binary64 → Option Int
  | .finite negative significand exponent =>
    some (signed negative (ratio significand exponent).floor)
  | _ => none

end Binary64

end TypeLowering
