import ClusterFramework.Text.Blank
import ClusterFramework.Text.Decimal
import ClusterFramework.Text.Split

/-! Port ranges: numbers, or two numbers around a hyphen, between commas. -/
namespace ClusterFramework
namespace Definition

def port? (cs : List Char) : Option Nat := Text.naturalBelow? UInt64.size cs

def bounds? (part : List Char) : Option (Nat × Nat) :=
  match Text.splitOnce? '-' part with
  | some (first,last) => do pure (← port? (Text.trim first),← port? (Text.trim last))
  | none => (port? part).map fun n => (n,n)

/-- Zero is no port, and a range may not run backwards. -/
def portRange? (part : List Char) : Option (UInt64 × UInt64) :=
  ((bounds? (Text.trim part)).filter fun (first,last) =>
    first ≠ 0 && first ≤ last && last ≤ 65535).map fun (first,last) =>
      (UInt64.ofNat first,UInt64.ofNat last)

def portRanges? (s : String) : Option (List (UInt64 × UInt64)) :=
  (Text.splitAt ',' s.toList).mapM portRange?

def printPortRanges (rs : List (UInt64 × UInt64)) : String :=
  String.ofList (Text.joinWith ',' (rs.map fun r =>
    Nat.toDigits 10 r.1.toNat ++ '-' :: Nat.toDigits 10 r.2.toNat))

end Definition
end ClusterFramework
