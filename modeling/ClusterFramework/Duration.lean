import ClusterFramework.Binary64.Basic
import ClusterFramework.Rounding

/-! Lengths of time in whole nanoseconds. Seconds are counted by a 64-bit word, so there is
a longest one, and products stop there. -/
namespace ClusterFramework

structure Duration where
  nanos : Nat
  nanos_lt : nanos < 18446744073709551616*1000000000 := by decide
  deriving DecidableEq,Repr

namespace Duration

def zero : Duration := ⟨0,by decide⟩

def longest : Duration := ⟨18446744073709551616*1000000000-1,by decide⟩

/-- The longest duration stands for all that are longer. -/
def saturated (n : Nat) : Duration :=
  if h : n < 18446744073709551616*1000000000 then ⟨n,h⟩ else longest

@[simp] theorem nanos_saturated (n : Nat) : (saturated n).nanos = min n longest.nanos := by
  unfold saturated longest
  split <;> simp only <;> omega

theorem nanos_le_longest (d : Duration) : d.nanos ≤ longest.nanos := by
  have := d.nanos_lt
  simp only [longest]; omega

def ofMillis (n : UInt64) : Duration :=
  ⟨n.toNat*1000000,by have := n.toNat_lt; omega⟩

def times (d : Duration) (n : Nat) : Duration := saturated (d.nanos*n)

@[simp] theorem nanos_times (d : Duration) (n : Nat) :
    (d.times n).nanos = min (d.nanos*n) longest.nanos := nanos_saturated _

def shorter (d e : Duration) : Duration := if d.nanos ≤ e.nanos then d else e

@[simp] theorem nanos_shorter (d e : Duration) : (d.shorter e).nanos = min d.nanos e.nanos := by
  unfold shorter; split <;> omega

def seconds (d : Duration) : Nat := d.nanos/1000000000

def millis (d : Duration) : Nat := d.nanos/1000000

/-- A positive number of seconds, to the nearest nanosecond; `none` from `2^64` on. -/
def ofSeconds? (x : Binary64) : Option Duration :=
  let n := roundHalfEven (x.mantissa*Nat.pow 2 x.scale*1000000000) (Nat.pow 2 1074)
  if h : n < 18446744073709551616*1000000000 then some ⟨n,h⟩ else none

/-- Whole seconds plus the rest of a second, each rounded to a binary number. -/
def toSeconds (d : Duration) : Binary64 :=
  .ofFloat ((UInt64.ofNat d.seconds).toFloat+(UInt64.ofNat (d.nanos%1000000000)).toFloat/1000000000.0)

end Duration
end ClusterFramework
