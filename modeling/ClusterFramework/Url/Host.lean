import ClusterFramework.Url.Basic
import ClusterFramework.Url.Escape
import ClusterFramework.Url.Name

/-! The hosts that web addresses name. -/
namespace ClusterFramework
namespace Url

def ipv4Number? (cs : List Char) : Option Nat :=
  let read (base : Nat) (ds : List Char) : Option Nat :=
    match Network.digitsOf base ds with
    | (values,[]) => some (Network.valueOf base values)
    | _ => none
  match cs with
  | [] => none
  | '0' :: 'x' :: ds => read 16 ds
  | '0' :: 'X' :: ds => read 16 ds
  | '0' :: d :: ds => read 8 (d :: ds)
  | ds => read 10 ds

def dotted (cs : List Char) : List (List Char) :=
  let parts := Text.splitAt '.' cs
  if parts.getLast? = some [] ∧ 1 < parts.length then parts.dropLast else parts

def endsInNumber (cs : List Char) : Bool :=
  match (dotted cs).getLast? with
  | none => false
  | some part => (part ≠ [] && part.all Char.isDigit) || (ipv4Number? part).isSome

/-- Up to four parts; each but the last is one octet, and the last is all octets left. -/
def ipv4Of? (cs : List Char) : Option Network.Ipv4 := do
  let numbers ← (dotted cs).mapM ipv4Number?
  let last ← numbers.getLast?
  let front := numbers.dropLast
  if 3 < front.length ∨ front.any (255 < ·) ∨ Nat.pow 256 (4-front.length) ≤ last then none
  else
    let n := Network.valueOf 256 front*Nat.pow 256 (4-front.length)+last
    some ⟨UInt8.ofNat (n/0x1000000),UInt8.ofNat (n/0x10000),UInt8.ofNat (n/0x100),UInt8.ofNat n⟩

def ipv6Of? (cs : List Char) : Option Network.Ipv6 :=
  match Network.ipv6? cs with
  | some (a,[]) => some a
  | _ => none

def forbidden : List Char :=
  "\x00\t\n\r #/:<>?@[\\]^|".toList

def isForbiddenInDomain (c : Char) : Bool :=
  forbidden.contains c || c.toNat < 32 || c = '%' || c.toNat = 127

def domain? (cs : List Char) : Except UrlError Host :=
  match (Utf8.decode? (unescape (Utf8.encode (String.ofList cs)))).bind (ascii? ·.toList) with
  | none => .error .invalidDomain
  | some letters =>
    if letters.any isForbiddenInDomain then .error .invalidDomain
    else if letters = [] then .error .emptyHost
    else if endsInNumber letters then
      match ipv4Of? letters with
      | none => .error .invalidIpv4
      | some a => .ok (.ipv4 a)
    else .ok (.domain (String.ofList letters))

/-- A host in brackets is an address of eight groups. Other schemes take any name that does
not look like another part of an address. -/
def hostOf? (special : Bool) (cs : List Char) : Except UrlError Host :=
  if cs.head? = some '[' then
    if cs.getLast? ≠ some ']' then .error .invalidIpv6
    else
      match ipv6Of? (cs.drop 1).dropLast with
      | none => .error .invalidIpv6
      | some a => .ok (.ipv6 a)
  else if special then domain? cs
  else if cs.any forbidden.contains then .error .invalidHostCharacter
  else .ok (.plain (String.ofList (escape isControl cs)))

end Url
end ClusterFramework
