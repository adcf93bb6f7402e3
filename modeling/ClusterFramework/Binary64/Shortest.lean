import ClusterFramework.Binary64.Basic

/-! The shortest decimal that reads back as a given binary number, found on exact
fractions: the first decimal grid with a point that rounds to the number, and on it the
nearer of the number's two neighbours. -/
namespace ClusterFramework
namespace Binary64

inductive Tie where
  | up
  | toEven
  deriving DecidableEq,Repr

/-- `digits * 10^exponent`, with no zero at the end of `digits`. -/
structure Decimal where
  digits : Nat
  exponent : Int
  deriving DecidableEq,Repr

def scaled (num den : Nat) (power : Int) : Nat × Nat :=
  if 0 ≤ power then (num*Nat.pow 10 power.toNat,den) else (num,den*Nat.pow 10 (-power).toNat)

def zerosUpTo : Nat → Nat → Nat → Nat → Nat
  | 0, k, _, _ => k
  | fuel+1, k, num, den => if den ≤ num*10 then k else zerosUpTo fuel (k+1) (num*10) den

/-- The count of digits before the point of `num/den`, negative for zeros after it. -/
def magnitude (num den : Nat) : Int :=
  if den ≤ num then (Nat.toDigits 10 (num/den)).length else -(zerosUpTo 400 0 num den : Nat)

/-- The numbers that round to one of mantissa `m` and scale `s` lie between the two bounds,
in units of `2^-1076`; the bounds themselves do when `m` is even. -/
def bounds (m s : Nat) : Nat × Nat :=
  ((4*m-(if m = 0x10000000000000 ∧ 0 < s then 1 else 2))*Nat.pow 2 s,(4*m+2)*Nat.pow 2 s)

def within (m s : Nat) (num den : Nat) : Bool :=
  let (low,high) := bounds m s
  let x := num*Nat.pow 2 1076
  if m%2 = 0 then low*den ≤ x && x ≤ high*den else low*den < x && x < high*den

def pick (tie : Tie) (m s : Nat) (num den : Nat) (power : Int) : Option Nat :=
  let (n,d) := scaled num den (-power)
  let floor := n/d
  let hit := fun k => let (a,b) := scaled k 1 power; within m s a b
  match hit floor && floor ≠ 0, hit (floor+1) with
  | false, false => none
  | true, false => some floor
  | false, true => some (floor+1)
  | true, true =>
    let r := n%d
    if 2*r < d then some floor
    else if d < 2*r then some (floor+1)
    else match tie with
      | .up => some (floor+1)
      | .toEven => some (if floor%2 = 0 then floor else floor+1)

def search (tie : Tie) (m s num den : Nat) : Nat → Int → Nat × Int
  | 0, power => (num/den,power)
  | fuel+1, power =>
    match pick tie m s num den power with
    | some digits => (digits,power)
    | none => search tie m s num den fuel (power-1)

def stripZeros : Nat → Nat → Int → Decimal
  | 0, n, e => ⟨n,e⟩
  | fuel+1, n, e => if n%10 = 0 then stripZeros fuel (n/10) (e+1) else ⟨n,e⟩

def shortest (tie : Tie) (x : Binary64) : Decimal :=
  let num := x.mantissa*Nat.pow 2 x.scale
  let den := Nat.pow 2 1074
  let (digits,power) := search tie x.mantissa x.scale num den 17 (magnitude num den-1)
  stripZeros 20 digits power

end Binary64
end ClusterFramework
