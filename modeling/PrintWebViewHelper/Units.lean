import Mathlib.Tactic.Linarith
import Mathlib.Tactic.Ring

/-!
# Unit conversion

Every length the print helper handles is an integer in one of four units: device units at
the printer's resolution, CSS pixels (`kPixelsPerInch` to the inch), typographic points
(`kPointsPerInch` to the inch) and the resolution the document is laid out at.  `ConvertUnit`
moves a length from one unit to another and rounds to the nearest integer every time, so a
chain of conversions accumulates rounding.

`ConvertUnit` itself belongs to `printing/units.cc`, which is not among the sources; the
definition here follows the spec's numeric semantics.  The spec does not say which way an
exact half goes; it goes away from zero here, written with the C `/` (`Int.tdiv`) the way
an integer "add half the divisor" rounding is written in C.

## Main definitions

* `kPointsPerInch`, `kPixelsPerInch` — the two fixed units.
* `convertUnit` — `value * newUnit / oldUnit`, rounded to the nearest integer.

## Main results

* `convertUnit_bounds_of_nonneg`, `convertUnit_bounds_of_neg` — the rounding error is at most
  half a unit, and a tie only ever goes away from zero.
* `convertUnit_nonneg` — a non-negative length stays non-negative.
* `convertUnit_convertUnit_of_le` — converting to a finer unit and back is exact.
* `convertUnit_add_add_sub` — three lengths rounded one by one add up to within one unit of
  their sum rounded once.
* `convertUnit_of_dvd` — a conversion to a multiple of the old unit is exact.
-/

namespace Printing

/-- Length of an inch in CSS's `1pt` unit. -/
def kPointsPerInch : Int := 72

/-- Length of an inch in CSS's `1px` unit. -/
def kPixelsPerInch : Int := 96

/-- Modelled from the spec: `ConvertUnit` of `printing/units.cc`, which is not in the
sources.  The spec's numeric semantics: `value * targetUnitsPerInch / sourceUnitsPerInch`,
rounded to the nearest integer at each conversion; a half rounds away from zero.

The arithmetic is on unbounded integers; where the `int`s of a computation stay in range is
said separately (`InInt`).  An `oldUnit` of zero is a division by zero in C++, where `Int.tdiv`
gives 0.  Every conversion of the print helper divides by `GetDPI` or by a fixed unit, and the
constructor of `PrepareFrameAndViewForPrint` crashes on a `GetDPI` of zero before its first
conversion, so no run of the controller reaches that case; the results about conversions
outside a run assume `GetDPI ≥ 1`. -/
def convertUnit (value oldUnit newUnit : Int) : Int :=
  if 0 ≤ value then (value * newUnit + oldUnit.tdiv 2).tdiv oldUnit
  else (value * newUnit - oldUnit.tdiv 2).tdiv oldUnit

example : convertUnit 612 72 96 = 816 := by decide
example : convertUnit 5 72 96 = 7 := by decide
example : convertUnit (-3) 2 1 = -2 := by decide

/-! ### Rounding error -/

/-- Euclidean division by a positive divisor, as the two inequalities `omega` uses. -/
private theorem mul_ediv_bounds (a : Int) {b : Int} (hb : 0 < b) :
    a - b < b * (a / b) ∧ b * (a / b) ≤ a := by
  have h1 := Int.ediv_add_emod a b
  have h2 := Int.emod_nonneg a hb.ne'
  have h3 := Int.emod_lt_of_pos a hb
  omega

variable {value oldUnit newUnit : Int}

/-- A non-negative length is rounded to within half a unit, and an exact half goes up. -/
theorem convertUnit_bounds_of_nonneg (ho : 0 < oldUnit) (hn : 0 < newUnit) (hv : 0 ≤ value) :
    2 * (value * newUnit) - oldUnit < 2 * (oldUnit * convertUnit value oldUnit newUnit) ∧
      2 * (oldUnit * convertUnit value oldUnit newUnit) ≤ 2 * (value * newUnit) + oldUnit := by
  have hvn : 0 ≤ value * newUnit := Int.mul_nonneg hv hn.le
  have hhalf : oldUnit.tdiv 2 = oldUnit / 2 := Int.tdiv_eq_ediv ho.le (by decide)
  have hnum : 0 ≤ value * newUnit + oldUnit / 2 := by omega
  rw [convertUnit, if_pos hv, hhalf, Int.tdiv_eq_ediv hnum ho.le]
  have := mul_ediv_bounds (value * newUnit + oldUnit / 2) ho
  omega

/-- A negative length is rounded to within half a unit, and an exact half goes down. -/
theorem convertUnit_bounds_of_neg (ho : 0 < oldUnit) (hn : 0 < newUnit) (hv : value < 0) :
    2 * (value * newUnit) - oldUnit ≤ 2 * (oldUnit * convertUnit value oldUnit newUnit) ∧
      2 * (oldUnit * convertUnit value oldUnit newUnit) < 2 * (value * newUnit) + oldUnit := by
  have hvn : value * newUnit < 0 := Int.mul_neg_of_neg_of_pos hv hn
  have hhalf : oldUnit.tdiv 2 = oldUnit / 2 := Int.tdiv_eq_ediv ho.le (by decide)
  have hnum : 0 ≤ -(value * newUnit - oldUnit / 2) := by omega
  have hc :
      convertUnit value oldUnit newUnit = -((-(value * newUnit - oldUnit / 2)) / oldUnit) := by
    rw [convertUnit, if_neg (by omega), hhalf, ← Int.tdiv_eq_ediv hnum ho.le, Int.neg_tdiv,
      Int.neg_neg]
  rw [hc, Int.mul_neg]
  have := mul_ediv_bounds (-(value * newUnit - oldUnit / 2)) ho
  omega

/-- Whatever the sign, the rounding error is at most half a unit. -/
theorem convertUnit_bounds (ho : 0 < oldUnit) (hn : 0 < newUnit) :
    2 * (value * newUnit) - oldUnit ≤ 2 * (oldUnit * convertUnit value oldUnit newUnit) ∧
      2 * (oldUnit * convertUnit value oldUnit newUnit) ≤ 2 * (value * newUnit) + oldUnit := by
  rcases le_or_lt 0 value with hv | hv
  · have := convertUnit_bounds_of_nonneg ho hn hv; omega
  · have := convertUnit_bounds_of_neg ho hn hv; omega

theorem convertUnit_nonneg (ho : 0 < oldUnit) (hn : 0 < newUnit) (hv : 0 ≤ value) :
    0 ≤ convertUnit value oldUnit newUnit := by
  rw [convertUnit, if_pos hv]
  exact Int.tdiv_nonneg
    (Int.add_nonneg (Int.mul_nonneg hv hn.le) (Int.tdiv_nonneg ho.le (by decide))) ho.le

/-- Converting to a unit and back when both are the same unit changes nothing. -/
@[simp] theorem convertUnit_self (ho : 0 < oldUnit) :
    convertUnit value oldUnit oldUnit = value := by
  obtain ⟨h1, h2⟩ := @convertUnit_bounds value oldUnit oldUnit ho ho
  -- the error, doubled and scaled by the unit, is at most the unit
  have e : oldUnit * (2 * (convertUnit value oldUnit oldUnit - value)) =
      2 * (oldUnit * convertUnit value oldUnit oldUnit) - 2 * (value * oldUnit) := by ring
  have hup : 2 * (convertUnit value oldUnit oldUnit - value) ≤ 1 :=
    Int.le_of_mul_le_mul_left (by rw [e]; omega) ho
  have hlo : -1 ≤ 2 * (convertUnit value oldUnit oldUnit - value) :=
    Int.le_of_mul_le_mul_left (by rw [e]; omega) ho
  omega

/-- **Going through a finer unit and back is exact**: rounding to `newUnit ≥ oldUnit` loses
less than half an `oldUnit`, so the second rounding restores the value. -/
theorem convertUnit_convertUnit_of_le (ho : 0 < oldUnit) (hle : oldUnit ≤ newUnit) :
    convertUnit (convertUnit value oldUnit newUnit) newUnit oldUnit = value := by
  have hn : 0 < newUnit := lt_of_lt_of_le ho hle
  rcases eq_or_lt_of_le hle with rfl | hlt
  · rw [convertUnit_self ho, convertUnit_self ho]
  set y := convertUnit value oldUnit newUnit
  have hy := @convertUnit_bounds value oldUnit newUnit ho hn
  have hz := @convertUnit_bounds y newUnit oldUnit hn ho
  set z := convertUnit y newUnit oldUnit
  -- `2·new·z` is within `new + old < 2·new` of `2·new·value`
  have hup : newUnit * (z - value) < newUnit := by linarith
  have hlo : -newUnit < newUnit * (z - value) := by linarith
  have h1 : z - value < 1 := lt_of_mul_lt_mul_left (by linarith) hn.le
  have h2 : -1 < z - value := lt_of_mul_lt_mul_left (by linarith) hn.le
  omega

/-- The rounding error of one conversion, by the sign of the length. -/
private theorem convertUnit_error (ho : 0 < oldUnit) (hn : 0 < newUnit) (value : Int) :
    (0 ≤ value ∧
        2 * (value * newUnit) - oldUnit < 2 * (oldUnit * convertUnit value oldUnit newUnit) ∧
        2 * (oldUnit * convertUnit value oldUnit newUnit) ≤ 2 * (value * newUnit) + oldUnit) ∨
      (value < 0 ∧
        2 * (value * newUnit) - oldUnit ≤ 2 * (oldUnit * convertUnit value oldUnit newUnit) ∧
        2 * (oldUnit * convertUnit value oldUnit newUnit) < 2 * (value * newUnit) + oldUnit) := by
  rcases le_or_lt 0 value with hv | hv
  · exact .inl ⟨hv, convertUnit_bounds_of_nonneg ho hn hv⟩
  · exact .inr ⟨hv, convertUnit_bounds_of_neg ho hn hv⟩

/-- **Rounding three lengths one by one** gives a sum within one unit of rounding their sum
once.  The four errors are each at most half a unit; the bound of two could only be reached
with all four at a tie and the three terms on one side of zero, and then the sum is on that
side too and its tie goes the same way. -/
theorem convertUnit_add_add_sub (ho : 0 < oldUnit) (hn : 0 < newUnit) {a b c s : Int}
    (hs : a + b + c = s) :
    -1 ≤ convertUnit a oldUnit newUnit + convertUnit b oldUnit newUnit +
        convertUnit c oldUnit newUnit - convertUnit s oldUnit newUnit ∧
      convertUnit a oldUnit newUnit + convertUnit b oldUnit newUnit +
        convertUnit c oldUnit newUnit - convertUnit s oldUnit newUnit ≤ 1 := by
  have ha := convertUnit_error ho hn a
  have hb := convertUnit_error ho hn b
  have hc := convertUnit_error ho hn c
  have hs' := convertUnit_error ho hn s
  have hsum : s * newUnit = a * newUnit + b * newUnit + c * newUnit := by rw [← hs]; ring
  set d := convertUnit a oldUnit newUnit + convertUnit b oldUnit newUnit +
    convertUnit c oldUnit newUnit - convertUnit s oldUnit newUnit
  have hd : oldUnit * d = oldUnit * convertUnit a oldUnit newUnit +
      oldUnit * convertUnit b oldUnit newUnit + oldUnit * convertUnit c oldUnit newUnit -
      oldUnit * convertUnit s oldUnit newUnit := by ring
  have hlt : oldUnit * d < oldUnit * 2 := by omega
  have hgt : oldUnit * (-2) < oldUnit * d := by omega
  have := lt_of_mul_lt_mul_left hlt ho.le
  have := lt_of_mul_lt_mul_left hgt ho.le
  omega

/-- A conversion to a unit the old one divides is exact. -/
theorem convertUnit_of_dvd (ho : 0 < oldUnit) (hn : 0 < newUnit) (hdvd : oldUnit ∣ newUnit) :
    convertUnit value oldUnit newUnit = value * (newUnit / oldUnit) := by
  obtain ⟨k, rfl⟩ := hdvd
  rw [Int.mul_ediv_cancel_left _ ho.ne']
  have h := @convertUnit_bounds value oldUnit (oldUnit * k) ho hn
  set c := convertUnit value oldUnit (oldUnit * k)
  have e : oldUnit * (2 * (c - value * k)) = 2 * (oldUnit * c) - 2 * (value * (oldUnit * k)) := by
    ring
  have h1 := le_of_mul_le_mul_left
    (by rw [e]; omega : oldUnit * (2 * (c - value * k)) ≤ oldUnit * 1) ho
  have h2 := le_of_mul_le_mul_left
    (by rw [e]; omega : oldUnit * (-1) ≤ oldUnit * (2 * (c - value * k))) ho
  omega

end Printing
