import Mathlib.Data.Rat.Floor
import Mathlib.Data.Int.Log
import Mathlib.Data.Prod.Lex
import Mathlib.Data.PNat.Basic

/-! Machine-level values: 64-bit counters, binary32 floating point, instants and UUIDs. -/

namespace ControlPlane

namespace U64

def MAX : Nat := 2 ^ 64 - 1

def saturatingAdd (a b : Nat) : Nat := min (a + b) MAX

theorem saturatingAdd_of_lt {a b : Nat} (h : a + b < 2 ^ 64) : saturatingAdd a b = a + b := by
  simp only [saturatingAdd, MAX]
  omega

def wrappingAdd (a b : Nat) : Nat := (a + b) % 2 ^ 64

end U64

namespace U32

def saturatingAdd (a b : Nat) : Nat := min (a + b) (2 ^ 32 - 1)

def saturatingMul (a b : Nat) : Nat := min (a * b) (2 ^ 32 - 1)

/-- The cast of an `i64` to `u32` keeps the low 32 bits. -/
def ofI64 (a : Int) : Nat := (a % 2 ^ 32).toNat

end U32

namespace I64

def MAX : Int := 2 ^ 63 - 1

def saturatingMul (a b : Int) : Int := max (-2 ^ 63) (min (a * b) MAX)

end I64

structure NonZeroUsize where
  value : ℕ+
  bound : value.val < 2 ^ 64

abbrev Uuid := BitVec 128

namespace Uuid

def isNil (id : Uuid) : Bool := id == 0

def version (id : Uuid) : Nat := id.toNat / 2 ^ 76 % 16

end Uuid

/-- An instant: whole seconds and nanoseconds within the second, which a leap second
pushes past `10 ^ 9`. -/
@[ext] structure DateTime where
  secs : Int
  nanos : Nat
  deriving DecidableEq, Repr

namespace DateTime

def toLexPair (t : DateTime) : Int ×ₗ Nat := toLex (t.secs, t.nanos)

theorem toLexPair_injective : Function.Injective toLexPair := by
  intro a b h
  have h := congrArg ofLex h
  simp only [toLexPair, ofLex_toLex, Prod.mk.injEq] at h
  exact DateTime.ext h.1 h.2

instance : LinearOrder DateTime := LinearOrder.lift' toLexPair toLexPair_injective

def secondsSince (now t : DateTime) : Int :=
  ((now.secs - t.secs) * 10 ^ 9 + ((now.nanos : Int) - t.nanos)).tdiv (10 ^ 9)

end DateTime

structure F32 where
  bits : BitVec 32
  deriving DecidableEq, Repr

namespace F32

def zero : F32 := ⟨0x00000000⟩
def one : F32 := ⟨0x3F800000⟩
def nan : F32 := ⟨0x7FC00000⟩

def sign (x : F32) : Bool := x.bits.msb
def magnitude (x : F32) : Nat := x.bits.toNat % 2 ^ 31
def infMagnitude : Nat := 0x7F800000

def isNan (x : F32) : Bool := infMagnitude < x.magnitude
def isInf (x : F32) : Bool := x.magnitude == infMagnitude
def isFinite (x : F32) : Bool := x.magnitude < infMagnitude

/-- Apart from NaN, values are ordered as their signed magnitudes are; both zeros are `0`. -/
def key (x : F32) : Int := if x.sign then -(x.magnitude : Int) else x.magnitude

def lt (x y : F32) : Bool := !x.isNan && !y.isNan && decide (x.key < y.key)
def le (x y : F32) : Bool := !x.isNan && !y.isNan && decide (x.key ≤ y.key)

def ofParts (sign : Bool) (magnitude : Nat) : F32 :=
  ⟨BitVec.ofNat 32 (magnitude + if sign then 2 ^ 31 else 0)⟩

def absToRat (magnitude : Nat) : ℚ :=
  let exponent : Nat := magnitude / 2 ^ 23
  let fraction : Nat := magnitude % 2 ^ 23
  if exponent = 0 then fraction * 2 ^ (-149 : Int)
  else (2 ^ 23 + fraction) * 2 ^ ((exponent : Int) - 150)

def toRat (x : F32) : ℚ := if x.sign then -absToRat x.magnitude else absToRat x.magnitude

def roundHalfEven (q : ℚ) : Nat :=
  let n := q.num.toNat / q.den
  let r := q.num.toNat % q.den
  if 2 * r < q.den then n
  else if q.den < 2 * r then n + 1
  else if n % 2 = 0 then n else n + 1

def absOfRat (q : ℚ) : Nat :=
  if q = 0 then 0
  else
    let exponent := max (-126) (Int.log 2 q)
    let significand := roundHalfEven (q / 2 ^ (exponent - 23))
    min ((exponent + 126).toNat * 2 ^ 23 + significand) infMagnitude

/-- Round a rational to binary32; `zeroSign` is the sign of an exact zero. -/
def ofRat (q : ℚ) (zeroSign : Bool) : F32 :=
  ofParts (if q = 0 then zeroSign else decide (q < 0)) (absOfRat |q|)

def ofNat (n : Nat) : F32 := ofRat n false

def add (x y : F32) : F32 :=
  if x.isNan || y.isNan then nan
  else if x.isInf then if y.isInf && x.sign != y.sign then nan else x
  else if y.isInf then y
  else ofRat (x.toRat + y.toRat) (x.sign && y.sign)

def mul (x y : F32) : F32 :=
  let negative := x.sign != y.sign
  if x.isNan || y.isNan then nan
  else if x.isInf || y.isInf then
    if x.magnitude == 0 || y.magnitude == 0 then nan else ofParts negative infMagnitude
  else ofRat (x.toRat * y.toRat) negative

def div (x y : F32) : F32 :=
  let negative := x.sign != y.sign
  if x.isNan || y.isNan then nan
  else if x.isInf then if y.isInf then nan else ofParts negative infMagnitude
  else if y.isInf then ofParts negative 0
  else if y.magnitude == 0 then
    if x.magnitude == 0 then nan else ofParts negative infMagnitude
  else ofRat (x.toRat / y.toRat) negative

def clamp (x low high : F32) : F32 :=
  if x.lt low then low else if high.lt x then high else x

def display0 (x : F32) : String :=
  if x.isNan then "NaN"
  else
    let digits :=
      if x.isInf then "inf" else toString (roundHalfEven (absToRat x.magnitude))
    if x.sign then "-" ++ digits else digits

theorem lt_irrefl (x : F32) : x.lt x = false := by
  simp [lt]

theorem absToRat_le_succ (n : Nat) : absToRat n ≤ absToRat (n + 1) := by
  have hunit : ∀ exponent : Int, (0 : ℚ) ≤ 2 ^ exponent := fun exponent =>
    zpow_nonneg zero_le_two exponent
  by_cases hcarry : n % 2 ^ 23 = 2 ^ 23 - 1
  · -- the next value is the first of the next exponent
    have hnext : (n + 1) / 2 ^ 23 = n / 2 ^ 23 + 1 := by omega
    have hfirst : (n + 1) % 2 ^ 23 = 0 := by omega
    rw [absToRat, absToRat, hnext, hfirst, hcarry, if_neg (Nat.succ_ne_zero _)]
    split
    · next hzero =>
      rw [hzero]
      norm_num
    · have hdouble : (2 : ℚ) ^ (((n / 2 ^ 23 + 1 : Nat) : Int) - 150) =
          2 * 2 ^ (((n / 2 ^ 23 : Nat) : Int) - 150) := by
        rw [← zpow_one_add₀ two_ne_zero, Nat.cast_succ]
        congr 1
        ring
      rw [hdouble, ← mul_assoc]
      exact mul_le_mul_of_nonneg_right (by norm_num) (hunit _)
  · have hsame : (n + 1) / 2 ^ 23 = n / 2 ^ 23 := by omega
    have hfraction : (n + 1) % 2 ^ 23 = n % 2 ^ 23 + 1 := by omega
    rw [absToRat, absToRat, hsame, hfraction, Nat.cast_succ]
    split
    · exact mul_le_mul_of_nonneg_right (le_add_of_nonneg_right zero_le_one) (hunit _)
    · rw [← add_assoc]
      exact mul_le_mul_of_nonneg_right (le_add_of_nonneg_right zero_le_one) (hunit _)

theorem absToRat_mono : Monotone absToRat :=
  monotone_nat_of_le_succ absToRat_le_succ

theorem absToRat_zero : absToRat 0 = 0 := by
  norm_num [absToRat]

theorem absToRat_nonneg (n : Nat) : 0 ≤ absToRat n :=
  absToRat_zero.symm.trans_le (absToRat_mono (Nat.zero_le n))

theorem toRat_le_toRat {x y : F32} (h : x.le y) : x.toRat ≤ y.toRat := by
  simp only [le, Bool.and_eq_true, decide_eq_true_eq] at h
  have hkey := h.2
  have hx := absToRat_nonneg x.magnitude
  have hy := absToRat_nonneg y.magnitude
  unfold key at hkey
  unfold toRat
  cases hsx : x.sign with
  | true =>
    cases hsy : y.sign with
    | true =>
      simp only [hsx, hsy, if_true] at hkey ⊢
      exact neg_le_neg (absToRat_mono (by omega))
    | false =>
      simp only [if_true, Bool.false_eq_true, if_false]
      exact (neg_nonpos.mpr hx).trans hy
  | false =>
    cases hsy : y.sign with
    | true =>
      simp only [hsx, hsy, if_true, Bool.false_eq_true, if_false] at hkey ⊢
      have hzero : x.magnitude = 0 ∧ y.magnitude = 0 := by omega
      rw [hzero.1, hzero.2, absToRat_zero, neg_zero]
    | false =>
      simp only [hsx, hsy, Bool.false_eq_true, if_false] at hkey ⊢
      exact absToRat_mono (by omega)

theorem toRat_zero : zero.toRat = 0 := by decide +kernel
theorem toRat_one : one.toRat = 1 := by decide +kernel

example : mul (ofRat (4 / 5) false) (ofNat 100) = ofNat 80 := by decide +kernel

end F32

end ControlPlane
