/-! Decimal numerals as written: a sign, digits, and perhaps a fraction and an exponent. -/
namespace ClusterFramework

/-- An exponent keeps its sign and digits; a fraction or exponent that is not written has
none. -/
structure Numeral where
  negative : Bool
  whole : List Char
  fraction : List Char
  exponent : Option (Bool × List Char)
  deriving DecidableEq,Repr

namespace Numeral

def digits (n : Numeral) : List Char := n.whole ++ n.fraction

def exponentText (plusSign : Bool) : Option (Bool × List Char) → List Char
  | none => []
  | some (true,ds) => 'e' :: '-' :: ds
  | some (false,ds) => 'e' :: ((if plusSign then ['+'] else []) ++ ds)

def text (plusSign : Bool) (n : Numeral) : List Char :=
  (if n.negative then ['-'] else []) ++ n.whole ++
    (if n.fraction = [] then [] else '.' :: n.fraction) ++ exponentText plusSign n.exponent

def ofNat (n : Nat) : Numeral := ⟨false,Nat.toDigits 10 n,[],none⟩

/-- The number an unsigned numeral without fraction and exponent stands for. -/
def natural? (n : Numeral) : Option Nat :=
  if n.negative = false ∧ n.fraction = [] ∧ n.exponent = none then
    some (Nat.ofDigitChars 10 n.whole 0)
  else none

@[simp] theorem natural?_ofNat (n : Nat) : (ofNat n).natural? = some n := by
  simp [natural?,ofNat,Nat.ofDigitChars_ten_toDigits]

def power (n : Numeral) : Int :=
  match n.exponent with
  | none => 0
  | some (true,ds) => -(Nat.ofDigitChars 10 ds 0 : Nat)
  | some (false,ds) => (Nat.ofDigitChars 10 ds 0 : Nat)

end Numeral
end ClusterFramework
