import ClusterFramework.Network.Address

/-! Internet addresses with a port, as texts. -/
namespace ClusterFramework
namespace Network

/-- An address of eight groups may name a scope; zero names none. -/
inductive SocketAddress where
  | v4 (address : Ipv4) (port : UInt16)
  | v6 (address : Ipv6) (scope : UInt32) (port : UInt16)
  deriving DecidableEq,Repr

namespace SocketAddress

/-- Any number of digits, for a value below `bound`. -/
def number? (bound : Nat) (cs : List Char) : Option (Nat × List Char) :=
  let (ds,rest) := digitsOf 10 cs
  if ds = [] ∨ bound ≤ valueOf 10 ds then none else some (valueOf 10 ds,rest)

def port? (cs : List Char) : Option (UInt16 × List Char) := do
  let (n,rest) ← number? UInt16.size (← given? ':' cs)
  pure (UInt16.ofNat n,rest)

def scope? (cs : List Char) : Option (UInt32 × List Char) := do
  let (n,rest) ← number? UInt32.size (← given? '%' cs)
  pure (UInt32.ofNat n,rest)

def readV4? (cs : List Char) : Option (SocketAddress × List Char) := do
  let (address,cs) ← ipv4? cs
  let (port,cs) ← port? cs
  pure (v4 address port,cs)

def readV6? (cs : List Char) : Option (SocketAddress × List Char) := do
  let cs ← given? '[' cs
  let (address,cs) ← ipv6? cs
  let (scope,cs) := (scope? cs).getD (0,cs)
  let cs ← given? ']' cs
  let (port,cs) ← port? cs
  pure (v6 address scope port,cs)

def read? (s : String) : Option SocketAddress := do
  let (address,rest) ← readV4? s.toList <|> readV6? s.toList
  if rest = [] then some address else none

def portText (port : UInt16) : List Char := ':' :: Nat.toDigits 10 port.toNat

def text : SocketAddress → String
  | v4 address port => String.ofList (address.text ++ portText port)
  | v6 address scope port =>
    let scopeText := if scope = 0 then [] else '%' :: Nat.toDigits 10 scope.toNat
    String.ofList ('[' :: (address.text ++ scopeText ++ (']' :: portText port)))

end SocketAddress
end Network
end ClusterFramework
