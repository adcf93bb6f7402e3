/-! Labels of domains in ASCII. A label with other characters is written as its ASCII
characters and, behind a hyphen, one number for each of the others, in ascending order: how
many places and characters lie between it and the one before. -/
namespace ClusterFramework
namespace Url
namespace Punycode

def digit (n : Nat) : Char := if n < 26 then Char.ofNat (97+n) else Char.ofNat (22+n)

/-- Which digits may end a number at the place `k`: those below the threshold. -/
def threshold (bias k : Nat) : Nat := min 26 (max 1 (k-bias))

theorem threshold_pos (bias k : Nat) : 0 < threshold bias k := by unfold threshold; omega

def digitsFrom (bias k n : Nat) : List Char :=
  let t := threshold bias k
  if n < t then [digit n]
  else digit (t+(n-t)%(36-t)) :: digitsFrom bias (k+36) ((n-t)/(36-t))
  termination_by n
  decreasing_by
    have := threshold_pos bias k
    exact Nat.lt_of_le_of_lt (Nat.div_le_self _ _) (by omega)

def settled (k delta : Nat) : Nat :=
  if 455 < delta then settled (k+36) (delta/35) else k+36*delta/(delta+38)
  termination_by delta

/-- The bias after a number, of which `written` have now been handled. -/
def adapted (isFirst : Bool) (delta written : Nat) : Nat :=
  let delta := if isFirst then delta/700 else delta/2
  settled 0 (delta+delta/written)

/-- How far writing has come: the digits so far, the bias, the characters handled, and the
distance from the last one that was written. -/
structure Progress where
  digits : List Char := []
  bias : Nat := 72
  handled : Nat
  distance : Nat := 0
  deriving DecidableEq,Repr

def Progress.pass (basic code : Nat) (p : Progress) (c : Char) : Progress :=
  if c.toNat < code then { p with distance := p.distance+1 }
  else if c.toNat = code then
    { digits := p.digits ++ digitsFrom p.bias 36 p.distance
      bias := adapted (p.handled = basic) p.distance (p.handled+1)
      handled := p.handled+1
      distance := 0 }
  else p

def writeFrom (basic : Nat) (cs : List Char) (next : Nat) (p : Progress) :
    List Nat → List Char
  | [] => p.digits
  | code :: codes =>
    let p := { p with distance := p.distance+(code-next)*(p.handled+1) }
    let p := cs.foldl (Progress.pass basic code) p
    writeFrom basic cs (code+1) { p with distance := p.distance+1 } codes

def isAscii (c : Char) : Bool := c.toNat < 128

def encode (cs : List Char) : List Char :=
  let basic := cs.filter isAscii
  let codes := ((cs.filter fun c => !isAscii c).map Char.toNat).mergeSort.eraseDups
  basic ++ (if basic = [] then [] else ['-']) ++
    writeFrom basic.length cs 128 { handled := basic.length } codes

def value? (c : Char) : Option Nat :=
  if 'a' ≤ c ∧ c ≤ 'z' then some (c.toNat-97)
  else if '0' ≤ c ∧ c ≤ '9' then some (c.toNat-22)
  else none

/-- A number, added to `sum` with the weight of its first digit, and what follows it. -/
def number? (bias k weight sum : Nat) : List Char → Option (Nat × List Char)
  | [] => none
  | c :: cs =>
    match value? c with
    | none => none
    | some d =>
      let t := threshold bias k
      if d < t then some (sum+d*weight,cs)
      else number? bias (k+36) (weight*(36-t)) (sum+d*weight) cs

theorem number?_shorter {bias k weight sum n : Nat} {cs rest : List Char}
    (h : number? bias k weight sum cs = some (n,rest)) : rest.length < cs.length := by
  induction cs generalizing k weight sum with
  | nil => simp [number?] at h
  | cons c cs ih =>
    simp only [number?] at h
    split at h
    · cases h
    · split at h
      · cases h; simp
      · have := ih h
        simp; omega

def readFrom (letters : List Char) (code place bias : Nat) (cs : List Char) :
    Option (List Char) :=
  if cs = [] then some letters
  else
    match h : number? bias 36 1 0 cs with
    | none => none
    | some (distance,rest) =>
      let count := letters.length+1
      let code := code+(place+distance)/count
      let here := (place+distance)%count
      if code.isValidChar then
        readFrom (letters.take here ++ Char.ofNat code :: letters.drop here) code (here+1)
          (adapted (place = 0) distance count) rest
      else none
  termination_by cs.length
  decreasing_by exact number?_shorter h

def decode? (cs : List Char) : Option (List Char) :=
  let numbers := (cs.reverse.takeWhile (· ≠ '-')).reverse
  let basic := cs.take (cs.length-numbers.length-1)
  if cs.all isAscii && (basic ≠ [] || numbers = cs) then readFrom basic 128 0 72 numbers else none

example : encode "bücher".toList = "bcher-kva".toList := by decide +kernel

example : decode? "bcher-kva".toList = some "bücher".toList := by decide +kernel

end Punycode
end Url
end ClusterFramework
