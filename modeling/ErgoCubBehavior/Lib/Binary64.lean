/-
  ErgoCubBehavior.Lib.Binary64

  IEEE 754 `binary64` values as programs see them that only copy and compare
  them: a double is its 64-bit pattern, and `==` is the IEEE comparison (no NaN
  equals anything, the two zeros are equal, every other value equals itself).

  The comparison is not reflexive, so nothing here is an instance of
  `LawfulBEq`.
-/

import Mathlib.Data.List.Basic

namespace Binary64

/-- A C++ `double`, by its bit pattern. -/
structure Double where
  bits : BitVec 64
deriving DecidableEq, Repr

namespace Double

/-- All exponent bits set and a nonzero mantissa. -/
def isNaN (x : Double) : Bool :=
  x.bits.extractLsb' 52 11 == BitVec.allOnes 11 && x.bits.extractLsb' 0 52 != 0

/-- Either zero: every bit but the sign is clear. -/
def isZero (x : Double) : Bool :=
  x.bits <<< 1 == 0

/-- The comparison `x == y`. -/
def eq (x y : Double) : Bool :=
  !x.isNaN && !y.isNaN && (x.bits == y.bits || (x.isZero && y.isZero))

/-- The literal `0`. -/
def zero : Double := ⟨0x0000000000000000#64⟩

/-- The literal `1`. -/
def one : Double := ⟨0x3FF0000000000000#64⟩

/-- The literal `-1.`. -/
def minusOne : Double := ⟨0xBFF0000000000000#64⟩

/-- What compares equal to anything but a zero has its bit pattern. -/
theorem eq_of_not_isZero {x y : Double} (hy : y.isZero = false) (h : x.eq y = true) :
    x = y := by
  have hbits : x.bits = y.bits := by
    simp only [eq, hy, Bool.and_false, Bool.or_false, Bool.and_eq_true, beq_iff_eq] at h
    exact h.2
  cases x
  cases y
  exact congrArg mk hbits

end Double
end Binary64
