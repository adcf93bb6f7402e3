/-! Text as octets. A string is its UTF-8 octets; octets that are not UTF-8 have a
lossy reading, in which each broken sequence becomes one replacement character. -/
namespace ClusterFramework

abbrev Octets := List UInt8

namespace Utf8

def encode (s : String) : Octets := s.toUTF8.data.toList

def decode? (b : Octets) : Option String := String.fromUTF8? ⟨b.toArray⟩

@[simp] theorem decode?_encode (s : String) : decode? (encode s) = some s := by
  have h : (⟨(encode s).toArray⟩ : ByteArray) = s.toByteArray := by simp [encode]
  rw [decode?,h,String.fromUTF8?,dif_pos s.isValidUTF8]
  rfl

theorem encode_of_decode? {b : Octets} {s : String} (h : decode? b = some s) : encode s = b := by
  unfold decode? String.fromUTF8? at h
  split at h
  · cases h; simp [encode,String.fromUTF8]
  · cases h

theorem encode_injective {s t : String} (h : encode s = encode t) : s = t := by
  have h' := congrArg decode? h
  simpa using h'

/-- A sequence under way: the value read so far, the number of octets still missing and
the range of the next one. -/
structure Pending where
  value : Nat
  missing : Nat
  low : Nat
  high : Nat
  deriving DecidableEq,Repr

def replacement : Char := Char.ofNat 0xFFFD

/-- An octet at the start of a sequence: a character of its own, the head of a longer
sequence, or neither. -/
def begin (b : UInt8) : List Char × Option Pending :=
  let n := b.toNat
  if n < 0x80 then ([Char.ofNat n],none)
  else if n < 0xC2 then ([replacement],none)
  else if n < 0xE0 then ([],some ⟨n-0xC0,1,0x80,0xBF⟩)
  else if n < 0xF0 then
    ([],some ⟨n-0xE0,2,if n = 0xE0 then 0xA0 else 0x80,if n = 0xED then 0x9F else 0xBF⟩)
  else if n < 0xF5 then
    ([],some ⟨n-0xF0,3,if n = 0xF0 then 0x90 else 0x80,if n = 0xF4 then 0x8F else 0xBF⟩)
  else ([replacement],none)

def lossyFrom : Option Pending → Octets → List Char
  | none, [] => []
  | some _, [] => [replacement]
  | none, b :: rest => (begin b).1 ++ lossyFrom (begin b).2 rest
  | some p, b :: rest =>
    if p.low ≤ b.toNat ∧ b.toNat ≤ p.high then
      let value := p.value * 64 + (b.toNat - 0x80)
      if p.missing = 1 then Char.ofNat value :: lossyFrom none rest
      else lossyFrom (some ⟨value,p.missing-1,0x80,0xBF⟩) rest
    else replacement :: ((begin b).1 ++ lossyFrom (begin b).2 rest)

def lossy (b : Octets) : String := String.ofList (lossyFrom none b)

end Utf8
end ClusterFramework
