/-! Binary floating-point numbers kept as their 64 bits, so that two of them are equal
exactly when a wire or a printout could not tell them apart. Arithmetic and comparison are
those of the number the bits stand for. -/
namespace ClusterFramework

structure Binary64 where
  bits : UInt64
  deriving DecidableEq,Repr,Inhabited

namespace Binary64

def toFloat (x : Binary64) : Float := Float.ofBits x.bits

def ofFloat (x : Float) : Binary64 := ⟨x.toBits⟩

def zero : Binary64 := ⟨0⟩

def negZero : Binary64 := ⟨0x8000000000000000⟩

def isNegative (x : Binary64) : Bool := 0x8000000000000000 ≤ x.bits.toNat

def exponent (x : Binary64) : Nat := x.bits.toNat/0x10000000000000%2048

def fraction (x : Binary64) : Nat := x.bits.toNat%0x10000000000000

def isZero (x : Binary64) : Bool := x.exponent = 0 && x.fraction = 0

theorem isZero_iff (x : Binary64) : x.isZero ↔ x = zero ∨ x = negZero := by
  obtain ⟨w⟩ := x
  have hw := w.toNat_lt
  simp only [isZero,Bool.and_eq_true,decide_eq_true_eq]
  simp only [exponent,fraction,zero,negZero,mk.injEq,← UInt64.toNat_inj,UInt64.toNat_ofNat]
  omega

def isFinite (x : Binary64) : Bool := x.exponent ≠ 2047

def isNaN (x : Binary64) : Bool := x.exponent = 2047 && x.fraction ≠ 0

/-- A finite number's magnitude is `mantissa * 2^(scale-1074)`. -/
def mantissa (x : Binary64) : Nat :=
  if x.exponent = 0 then x.fraction else 0x10000000000000+x.fraction

def scale (x : Binary64) : Nat := x.exponent-1

def neg (x : Binary64) : Binary64 := ⟨x.bits ^^^ 0x8000000000000000⟩

def add (x y : Binary64) : Binary64 := ofFloat (x.toFloat+y.toFloat)

def sub (x y : Binary64) : Binary64 := ofFloat (x.toFloat-y.toFloat)

/-- Numeric order; no NaN is above or below anything. -/
def lt (x y : Binary64) : Bool := x.toFloat < y.toFloat

/-- Left to right, starting from minus zero, the neutral element of addition. -/
def sum (xs : List Binary64) : Binary64 := xs.foldl add negZero

end Binary64
end ClusterFramework
