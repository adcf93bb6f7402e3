import ClusterFramework.Text.Utf8

/-! The values of header fields. -/
namespace ClusterFramework
namespace Network

def isHeaderText (s : String) : Bool :=
  s.toList.all fun c => (32 ≤ c.toNat || c = '\t') && c.toNat ≠ 127

def isVisible (b : UInt8) : Bool := 32 ≤ b.toNat && b.toNat < 127 || b.toNat = 9

def isPadding (b : UInt8) : Bool := b.toNat = 32 || b.toNat = 9

def stripped (value : Octets) : Octets :=
  ((value.dropWhile isPadding).reverse.dropWhile isPadding).reverse

def visibleText? (value : Octets) : Option String :=
  if (stripped value).all isVisible then Utf8.decode? (stripped value) else none

/-- The first value of a field, whose name may be written in either case. -/
def field? (name : String) (headers : List (String × Octets)) : Option Octets :=
  (headers.find? fun h => h.1.toList.map Char.toLower = name.toList).map Prod.snd

end Network
end ClusterFramework
