/-!
# Ratios

Quotients of natural numbers, kept exactly: scaled by powers of a base, rounded to whole numbers,
and measured by the digits before the point. `Ratio.round` is within half a unit
(`round_le`, `le_round`).
-/

namespace TypeLowering

/-- A quotient of natural numbers. -/
structure Ratio where
  num : Nat
  den : Nat

namespace Ratio

/-- The ratio times a power of a base. -/
def scale (r : Ratio) (base : Nat) (exponent : Int) : Ratio :=
  if 0 ≤ exponent then ⟨r.num * base.pow exponent.toNat, r.den⟩
  else ⟨r.num, r.den * base.pow exponent.natAbs⟩

/-- The ratio `n · base ^ exponent`. -/
def ofScaled (n base : Nat) (exponent : Int) : Ratio :=
  scale ⟨n, 1⟩ base exponent

/-- The greatest whole number that is not above the ratio. -/
def floor (r : Ratio) : Nat :=
  r.num / r.den

/-- The nearest whole number; of two that are equally near, the even one. -/
def round (r : Ratio) : Nat :=
  let below := r.num / r.den
  let rest := r.num % r.den
  if 2 * rest < r.den ∨ (2 * rest = r.den ∧ below % 2 = 0) then below else below + 1

/-- The number of digits of a number in a base. -/
def digitCount (base n : Nat) : Nat :=
  (Nat.toDigits base n).length

/-- The greatest exponent of a power of a base that is not above the ratio, which is not zero. -/
def log (r : Ratio) (base : Nat) : Int :=
  if r.den ≤ r.num then (digitCount base r.floor : Int) - 1
  else -(digitCount base ((r.den + r.num - 1) / r.num - 1) : Int)

theorem round_le (r : Ratio) : 2 * (r.round * r.den) ≤ 2 * r.num + r.den := by
  have hDiv := Nat.div_add_mod r.num r.den
  rw [Nat.mul_comm] at hDiv
  simp only [round]
  split
  · omega
  · rw [Nat.add_mul]
    omega

theorem le_round (r : Ratio) (hDen : 0 < r.den) : 2 * r.num ≤ 2 * (r.round * r.den) + r.den := by
  have hDiv := Nat.div_add_mod r.num r.den
  have hMod := Nat.mod_lt r.num hDen
  rw [Nat.mul_comm] at hDiv
  simp only [round]
  split
  · omega
  · rw [Nat.add_mul]
    omega

end Ratio

end TypeLowering
