import ClusterFramework.Text.Decimal
import ClusterFramework.Text.Hexadecimal
import ClusterFramework.Text.Split

/-! Internet addresses of four octets and of eight 16-bit groups, and their texts. -/
namespace ClusterFramework
namespace Network

structure Ipv4 where
  a : UInt8
  b : UInt8
  c : UInt8
  d : UInt8
  deriving DecidableEq,Repr

structure Ipv6 where
  groups : List UInt16
  length_groups : groups.length = 8 := by decide
  deriving DecidableEq,Repr

def Ipv4.octets (x : Ipv4) : List UInt8 := [x.a,x.b,x.c,x.d]

def Ipv4.text (x : Ipv4) : List Char :=
  Text.joinWith '.' (x.octets.map fun b => Nat.toDigits 10 b.toNat)

namespace Ipv6

/-- The first longest run of zero groups from position `i` on, as a start and a length, when
the best so far is `best`. -/
def longestRun (i : Nat) (best : Nat × Nat) : List UInt16 → Nat × Nat
  | [] => best
  | g :: gs =>
    let run := ((g :: gs).takeWhile (· = 0)).length
    longestRun (i+1) (if best.2 < run then (i,run) else best) gs

def groupsText (gs : List UInt16) : List Char :=
  Text.joinWith ':' (gs.map fun g => Nat.toDigits 16 g.toNat)

/-- Hexadecimal groups; two colons stand for the first longest run of two or more zero
groups. -/
def hexText (x : Ipv6) : List Char :=
  let (start,run) := longestRun 0 (0,0) x.groups
  if 1 < run then
    groupsText (x.groups.take start) ++ [':',':'] ++ groupsText (x.groups.drop (start+run))
  else groupsText x.groups

def mapped? (x : Ipv6) : Option Ipv4 :=
  match x.groups with
  | [0,0,0,0,0,0xffff,g,h] =>
    some ⟨(g >>> 8).toUInt8,g.toUInt8,(h >>> 8).toUInt8,h.toUInt8⟩
  | _ => none

/-- As `hexText`, but with a mapped address written in its own way. -/
def text (x : Ipv6) : List Char :=
  match x.mapped? with
  | some v => "::ffff:".toList ++ v.text
  | none => x.hexText

end Ipv6

def digitsOf (base : Nat) : List Char → List Nat × List Char
  | [] => ([],[])
  | c :: cs =>
    match (Text.hexValue? c).filter (· < base) with
    | none => ([],c :: cs)
    | some d => (d :: (digitsOf base cs).1,(digitsOf base cs).2)

def valueOf (base : Nat) (ds : List Nat) : Nat := ds.foldl (fun n d => base*n+d) 0

def octet? (cs : List Char) : Option (UInt8 × List Char) :=
  let (ds,rest) := digitsOf 10 cs
  let n := valueOf 10 ds
  if ds.length = 0 ∨ 3 < ds.length ∨ 255 < n ∨ (ds.head? = some 0 ∧ 1 < ds.length) then none
  else some (UInt8.ofNat n,rest)

def given? (c : Char) : List Char → Option (List Char)
  | [] => none
  | x :: rest => if x = c then some rest else none

def ipv4? (cs : List Char) : Option (Ipv4 × List Char) := do
  let (a,cs) ← octet? cs
  let cs ← given? '.' cs
  let (b,cs) ← octet? cs
  let cs ← given? '.' cs
  let (c,cs) ← octet? cs
  let cs ← given? '.' cs
  let (d,cs) ← octet? cs
  pure (⟨a,b,c,d⟩,cs)

def group? (cs : List Char) : Option (UInt16 × List Char) :=
  let (ds,rest) := digitsOf 16 cs
  if ds.length = 0 ∨ 4 < ds.length then none else some (UInt16.ofNat (valueOf 16 ds),rest)

def separated? {α : Type} (first : Bool) (read? : List Char → Option (α × List Char))
    (cs : List Char) : Option (α × List Char) :=
  if first then read? cs else (given? ':' cs).bind read?

def pair (high low : UInt8) : UInt16 := UInt16.ofNat (256*high.toNat+low.toNat)

/-- At most `n` groups between colons, as many as there are. Where two of them still have
room, an address of four octets may stand, and ends the groups. -/
def groups (first : Bool) : Nat → List Char → List UInt16 × Bool × List Char
  | 0, cs => ([],false,cs)
  | n+1, cs =>
    match if 0 < n then separated? first ipv4? cs else none with
    | some (v,rest) => ([pair v.a v.b,pair v.c v.d],true,rest)
    | none =>
      match separated? first group? cs with
      | none => ([],false,cs)
      | some (g,rest) =>
        let (gs,isMixed,rest) := groups false n rest
        (g :: gs,isMixed,rest)

/-- Eight groups, or fewer around two colons that stand for the zero groups left out. -/
def ipv6? (cs : List Char) : Option (Ipv6 × List Char) :=
  let (head,isMixed,rest) := groups true 8 cs
  if h : head.length = 8 then some (⟨head,h⟩,rest)
  else if isMixed then none
  else do
    let rest ← given? ':' rest
    let rest ← given? ':' rest
    let (tail,_,rest) := groups true (7-head.length) rest
    let all := head ++ List.replicate (8-head.length-tail.length) 0 ++ tail
    if h : all.length = 8 then some (⟨all,h⟩,rest) else none

end Network
end ClusterFramework
