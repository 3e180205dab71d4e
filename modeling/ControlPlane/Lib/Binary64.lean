import ControlPlane.Lib.Machine

/-! Binary64 floating point, by its bits. -/

namespace ControlPlane

structure F64 where
  bits : BitVec 64
  deriving DecidableEq, Repr

namespace F64

def zero : F64 := ⟨0x0000000000000000⟩
def negZero : F64 := ⟨0x8000000000000000⟩
def nan : F64 := ⟨0x7FF8000000000000⟩

def sign (x : F64) : Bool := x.bits.msb
def magnitude (x : F64) : Nat := x.bits.toNat % 2 ^ 63
def infMagnitude : Nat := 0x7FF0000000000000

def isNan (x : F64) : Bool := infMagnitude < x.magnitude
def isInf (x : F64) : Bool := x.magnitude == infMagnitude
def isFinite (x : F64) : Bool := x.magnitude < infMagnitude

def key (x : F64) : Int := if x.sign then -(x.magnitude : Int) else x.magnitude

def le (x y : F64) : Bool := !x.isNan && !y.isNan && decide (x.key ≤ y.key)

def ofParts (sign : Bool) (magnitude : Nat) : F64 :=
  ⟨BitVec.ofNat 64 (magnitude + if sign then 2 ^ 63 else 0)⟩

def absToRat (magnitude : Nat) : ℚ :=
  let exponent : Nat := magnitude / 2 ^ 52
  let fraction : Nat := magnitude % 2 ^ 52
  if exponent = 0 then fraction * 2 ^ (-1074 : Int)
  else (2 ^ 52 + fraction) * 2 ^ ((exponent : Int) - 1075)

def toRat (x : F64) : ℚ := if x.sign then -absToRat x.magnitude else absToRat x.magnitude

def absOfRat (q : ℚ) : Nat :=
  if q = 0 then 0
  else
    let exponent := max (-1022) (Int.log 2 q)
    let significand := F32.roundHalfEven (q / 2 ^ (exponent - 52))
    min ((exponent + 1022).toNat * 2 ^ 52 + significand) infMagnitude

/-- Round a rational to binary64; `zeroSign` is the sign of an exact zero. -/
def ofRat (q : ℚ) (zeroSign : Bool) : F64 :=
  ofParts (if q = 0 then zeroSign else decide (q < 0)) (absOfRat |q|)

def ofNat (n : Nat) : F64 := ofRat n false

def add (x y : F64) : F64 :=
  if x.isNan || y.isNan then nan
  else if x.isInf then if y.isInf && x.sign != y.sign then nan else x
  else if y.isInf then y
  else ofRat (x.toRat + y.toRat) (x.sign && y.sign)

def mul (x y : F64) : F64 :=
  let negative := x.sign != y.sign
  if x.isNan || y.isNan then nan
  else if x.isInf || y.isInf then
    if x.magnitude == 0 || y.magnitude == 0 then nan else ofParts negative infMagnitude
  else ofRat (x.toRat * y.toRat) negative

def div (x y : F64) : F64 :=
  let negative := x.sign != y.sign
  if x.isNan || y.isNan then nan
  else if x.isInf then if y.isInf then nan else ofParts negative infMagnitude
  else if y.isInf then ofParts negative 0
  else if y.magnitude == 0 then
    if x.magnitude == 0 then nan else ofParts negative infMagnitude
  else ofRat (x.toRat / y.toRat) negative

def sum (values : List F64) : F64 := values.foldl add negZero

example : mul (div (ofNat 20) (ofNat 200)) (mul (ofNat 2) (ofNat 100)) = ofNat 20 := by
  decide +kernel

end F64

end ControlPlane
