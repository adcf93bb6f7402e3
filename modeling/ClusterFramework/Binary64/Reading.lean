import ClusterFramework.Binary64.Basic
import ClusterFramework.Rounding
import ClusterFramework.Text.Numeral

/-! Binary numbers from decimal numerals, in two ways: the nearest one, and a quick one that
rounds twice. -/
namespace ClusterFramework
namespace Binary64

def infinity : Binary64 := ⟨0x7ff0000000000000⟩

/-- The number nearest to `num/den`, of two the one with the even significand; infinite
beyond the largest number. The significand has 53 bits, fewer only at the smallest scale. -/
def ofRatio (num den : Nat) : Binary64 :=
  let whole := num*Nat.pow 2 1074/den
  let scale := if whole = 0 then 0 else whole.log2-52
  let bits := scale*0x10000000000000+roundHalfEven (num*Nat.pow 2 1074) (den*Nat.pow 2 scale)
  ⟨UInt64.ofNat (min bits 0x7ff0000000000000)⟩

def ofDecimal (digits : Nat) (power : Int) : Binary64 :=
  let magnitude := (Nat.toDigits 10 digits).length+power
  if digits = 0 ∨ magnitude < -400 then zero
  else if 400 < magnitude then infinity
  else ofRatio (digits*Nat.pow 10 power.toNat) (Nat.pow 10 (-power).toNat)

def nearest (n : Numeral) : Binary64 :=
  let x := ofDecimal (Nat.ofDigitChars 10 n.digits 0) (n.power-n.fraction.length)
  if n.negative then x.neg else x

/-- Appends digits to a word while the result still fits 64 bits; the digits from the first
that does not fit are left. -/
def fill : Nat → List Char → Nat × List Char
  | n, [] => (n,[])
  | n, d :: ds =>
    let m := 10*n+(d.toNat-48)
    if m < UInt64.size then fill m ds else (n,d :: ds)

def powerOfTen (n : Nat) : Float := (ofDecimal 1 n).toFloat

/-- One multiplication or division by a power of ten, after as many divisions by `10^308`
as bring the power in reach; `none` beyond the largest number. -/
def scaleBy? (x : Float) (power : Int) : Option Float :=
  if power.natAbs ≤ 308 then
    if 0 ≤ power then
      let y := x*powerOfTen power.toNat
      if (ofFloat y).isFinite then some y else none
    else some (x/powerOfTen power.natAbs)
  else if (ofFloat x).isZero then some x
  else if 0 ≤ power then none
  else scaleBy? (x/powerOfTen 308) (power+308)
  termination_by power.natAbs
  decreasing_by omega

def exponentBound : Nat := 0x80000000

/-- The quick reading: the leading digits as one word, the other digits of the integer part
as powers of ten, the other digits of the fraction dropped. `none` when out of range. -/
def quick? (n : Numeral) : Option Binary64 :=
  let (whole,left) := fill 0 n.whole
  let (significand,dropped) := fill whole n.fraction
  let shift : Int := left.length-(n.fraction.length-dropped.length : Nat)
  let magnitude : Option Binary64 :=
    if n.power.natAbs < exponentBound then
      (scaleBy? (UInt64.ofNat significand).toFloat (shift+n.power)).map ofFloat
    else if significand = 0 ∨ n.power < 0 then some zero
    else none
  magnitude.map fun x => if n.negative then x.neg else x

def nan : Binary64 := ⟨0x7ff8000000000000⟩

def sign : List Char → Bool × List Char
  | '-' :: cs => (true,cs)
  | '+' :: cs => (false,cs)
  | cs => (false,cs)

def digits (cs : List Char) : List Char × List Char :=
  (cs.takeWhile Char.isDigit,cs.dropWhile Char.isDigit)

def exponentOf? : List Char → Option (Option (Bool × List Char))
  | [] => some none
  | e :: cs =>
    let (negative,ds) := sign cs
    if e.toLower = 'e' ∧ ds ≠ [] ∧ ds.all Char.isDigit then some (some (negative,ds)) else none

def numeral? (negative : Bool) (cs : List Char) : Option Numeral :=
  let (whole,rest) := digits cs
  let (fraction,rest) := match rest with
    | '.' :: cs => digits cs
    | _ => ([],rest)
  if whole = [] ∧ fraction = [] then none
  else (exponentOf? rest).map fun exponent => ⟨negative,whole,fraction,exponent⟩

def read? (cs : List Char) : Option Binary64 :=
  let (negative,cs) := sign cs
  let magnitude := match numeral? false cs with
    | some n => some (nearest n)
    | none =>
      if cs.map Char.toLower ∈ ["inf".toList,"infinity".toList] then some infinity
      else if cs.map Char.toLower = "nan".toList then some nan
      else none
  magnitude.map fun x => if negative then x.neg else x

end Binary64
end ClusterFramework
