import ClusterFramework.Duration

/-! How often and how patiently a failing operation is tried again. -/
namespace ClusterFramework

structure RetryPolicy where
  name : String
  maxRetries : UInt32
  totalRetries : UInt32 := 0
  retryTime : Duration
  backoff : Bool := false
  deriving DecidableEq,Repr

def wordPower (n : Nat) : Nat := if n < 32 then Nat.pow 2 n else 0xFFFFFFFF

theorem wordPower_eq (n : Nat) : wordPower n = min (Nat.pow 2 n) 0xFFFFFFFF := by
  unfold wordPower
  split
  · rename_i h
    have : Nat.pow 2 n ≤ 0x80000000 :=
      Nat.pow_le_pow_right (by decide : 0 < 2) (by omega : n ≤ 31)
    omega
  · rename_i h
    have : 0x100000000 ≤ Nat.pow 2 n :=
      Nat.pow_le_pow_right (by decide : 0 < 2) (by omega : 32 ≤ n)
    omega

namespace RetryPolicy

def default : RetryPolicy := { name := "default", maxRetries := 0, retryTime := .ofMillis 1000 }

def remaining (p : RetryPolicy) : Nat := p.maxRetries.toNat-p.totalRetries.toNat

/-- The wait before a retry, counted from one; with backoff it doubles each time. -/
def delay (p : RetryPolicy) (attempt : Nat) : Duration :=
  if p.backoff then p.retryTime.times (wordPower (attempt-1)) else p.retryTime

def countFailure (p : RetryPolicy) : Bool × RetryPolicy :=
  if p.totalRetries < p.maxRetries then (true,{ p with totalRetries := p.totalRetries+1 })
  else (false,p)

/-- An operation under a policy: the last answer, the number of calls, the policy with its
retries counted, and the waits between the calls. -/
structure Outcome (ε α : Type) where
  result : Except ε α
  calls : Nat
  policy : RetryPolicy
  waits : List Duration

variable {ε α : Type}

def runFrom (answer : Nat → Except ε α) : Nat → Nat → RetryPolicy → Outcome ε α
  | left, done, p =>
    match answer done, left with
    | .ok a, _ => ⟨.ok a,done+1,p,[]⟩
    | .error e, 0 => ⟨.error e,done+1,p,[]⟩
    | .error _, left+1 =>
      let rest := runFrom answer left (done+1) { p with totalRetries := p.totalRetries+1 }
      { rest with waits := p.delay (done+1) :: rest.waits }

def run (p : RetryPolicy) (answer : Nat → Except ε α) : Outcome ε α :=
  runFrom answer p.maxRetries.toNat 0 p

end RetryPolicy
end ClusterFramework
