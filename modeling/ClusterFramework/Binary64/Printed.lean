import ClusterFramework.Binary64.Shortest
import ClusterFramework.Text.Numeral

/-! The printed forms of a binary number: its shortest decimal, positional for middling
magnitudes and with an exponent outside them. -/
namespace ClusterFramework
namespace Binary64

/-- The decisions of one printed form. The leading digit's power of ten is written
positionally from `lowest` to `highest`. -/
structure Style where
  lowest : Int
  highest : Int
  plusSign : Bool
  tie : Tie

def Style.document : Style := ⟨-5,15,true,.toEven⟩

def Style.diagnostic : Style := ⟨-4,15,false,.up⟩

def zeros (n : Nat) : List Char := List.replicate n '0'

def positional (digits : List Char) (exponent : Int) : Numeral :=
  if 0 ≤ exponent then ⟨false,digits ++ zeros exponent.toNat,['0'],none⟩
  else
    let places := (-exponent).toNat
    if digits.length ≤ places then ⟨false,['0'],zeros (places-digits.length) ++ digits,none⟩
    else ⟨false,digits.take (digits.length-places),digits.drop (digits.length-places),none⟩

/-- One digit before the point, which is left out when none follows. -/
def scientific (digits : List Char) (power : Int) : Numeral :=
  ⟨false,digits.take 1,digits.drop 1,some (power < 0,Nat.toDigits 10 power.natAbs)⟩

def Decimal.numeral (style : Style) (d : Decimal) : Numeral :=
  let digits := Nat.toDigits 10 d.digits
  let power := d.exponent+(digits.length : Int)-1
  if style.lowest ≤ power ∧ power ≤ style.highest then positional digits d.exponent
  else scientific digits power

def numeral (style : Style) (x : Binary64) : Numeral :=
  let n := if x.isZero then ⟨false,['0'],['0'],none⟩ else (x.shortest style.tie).numeral style
  { n with negative := x.isNegative }

def diagnosticText (x : Binary64) : String :=
  if x.isNaN then "NaN"
  else if x.isFinite then String.ofList ((x.numeral .diagnostic).text Style.diagnostic.plusSign)
  else if x.isNegative then "-inf" else "inf"

end Binary64
end ClusterFramework
