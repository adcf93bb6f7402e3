import ClusterFramework.Proofs.Wire.Tokens
import ClusterFramework.Wire.Codec

/-! A scalar comes back from its payload bit for bit. The one value that does not come back
is a double of minus zero in a plain field: it counts as the default and is left out. -/
namespace ClusterFramework

namespace Wire

theorem int32_of_varint (n : Int32) : n.toInt64.toUInt64.toUInt32.toInt32 = n := by
  have h := congrArg Int32.toBitVec n.toInt32_toInt64
  rw [Int64.toBitVec_toInt32,BitVec.signExtend_eq_setWidth_of_le _ (by decide)] at h
  apply Int32.toBitVec_inj.mp
  simpa using h

theorem Scalar.ofPayload?_payload (s : Scalar) (x : s.Carrier) :
    s.ofPayload? (s.payload x) = some x := by
  cases s with
  | bool => cases x <;> rfl
  | int32 => simpa [ofPayload?,payload] using int32_of_varint x
  | int64 => rfl
  | uint32 => simp [ofPayload?,payload]
  | uint64 => rfl
  | enumeration first => simpa [ofPayload?,payload] using int32_of_varint x
  | double => rfl
  | string => simp [ofPayload?,payload]
  | bytes => rfl

theorem Scalar.isValue_payload (s : Scalar) (x : s.Carrier) : (s.payload x).isValue := by
  cases s <;> rfl

/-- What a plain field comes back with: a minus zero has lost its sign. -/
def Scalar.normalize : (s : Scalar) → s.Carrier → s.Carrier
  | .double, x => if x = .negZero then .zero else x
  | _, x => x

theorem Scalar.normalize_of_isDefault {s : Scalar} {x : s.Carrier} (h : s.isDefault x) :
    s.normalize x = s.default := by
  cases s with
  | double =>
    rcases (Binary64.isZero_iff x).mp h with rfl | rfl
    · rfl
    · rfl
  | _ => simpa [isDefault,normalize,default] using h

theorem Scalar.normalize_of_not_isDefault {s : Scalar} {x : s.Carrier}
    (h : s.isDefault x = false) : s.normalize x = x := by
  cases s with
  | double =>
    have hx : x ≠ .negZero := by
      rintro rfl
      exact absurd h (by decide)
    simp [normalize,hx]
  | _ => rfl

/-- Scalars whose payload is a varint; only these are packed. -/
def Scalar.isVarint : Scalar → Bool
  | .double | .string | .bytes => false
  | _ => true

theorem Scalar.payload_of_isVarint {s : Scalar} (h : s.isVarint) (x : s.Carrier) :
    ∃ w, s.payload x = .varint w := by
  cases s <;> first | exact ⟨_,rfl⟩ | exact absurd h (by decide)

theorem unpack?_varint {s : Scalar} {w : UInt64} {x : s.Carrier}
    (h : s.ofPayload? (.varint w) = some x) (b : Octets) :
    unpack? s (varint w ++ b) = (unpack? s b).map (x :: ·) := by
  have hne : varint w ++ b ≠ [] := by simp [varint_ne_nil]
  rw [unpack?,if_neg hne]
  split
  · rename_i hn
    simp at hn
  · rename_i w' rest hr
    rw [readVarint?_varint] at hr
    cases hr
    rw [h]
    rfl

theorem unpack?_packedOctets {s : Scalar} (h : s.isVarint) (xs : List s.Carrier) :
    unpack? s (packedOctets s xs) = some xs := by
  induction xs with
  | nil =>
    rw [unpack?]
    simp [packedOctets]
  | cons x xs ih =>
    obtain ⟨w,hw⟩ := s.payload_of_isVarint h x
    have hx : s.ofPayload? (.varint w) = some x := hw ▸ s.ofPayload?_payload x
    have hp : packedOctets s (x :: xs) = varint w ++ packedOctets s xs := by
      simp [packedOctets,hw,Payload.encode]
    rw [hp,unpack?_varint hx,ih]
    rfl

/-- What a field comes back with. -/
def Cardinality.normalize (s : Scalar) : (l : Cardinality) → l.Of s.Carrier → l.Of s.Carrier
  | .plain, x => s.normalize x
  | .optional, x => x
  | .repeated, xs => xs
  | .packed, xs => xs

def Cardinality.payloads (s : Scalar) : (l : Cardinality) → l.Of s.Carrier → List Payload
  | .plain, x => if s.isDefault x then [] else [s.payload x]
  | .optional, x => x.toList.map s.payload
  | .repeated, xs => xs.map s.payload
  | .packed, [] => []
  | .packed, x :: xs => [.delimited (packedOctets s (x :: xs))]

theorem Cardinality.tokens_eq (number : Nat) (s : Scalar) (l : Cardinality) (x : l.Of s.Carrier) :
    l.tokens number s x = (l.payloads s x).map (Token.mk number) := by
  cases l with
  | plain =>
    simp only [tokens,payloads]
    split <;> rfl
  | optional => simp [tokens,payloads]
  | repeated => simp [tokens,payloads]
  | packed => cases x <;> rfl

theorem Cardinality.isValue_of_mem_payloads {s : Scalar} {l : Cardinality} {x : l.Of s.Carrier}
    {p : Payload} (h : p ∈ l.payloads s x) : p.isValue := by
  cases l with
  | plain =>
    simp only [payloads] at h
    split at h
    · cases h
    · rw [List.mem_singleton.mp h]
      exact s.isValue_payload x
  | optional | repeated =>
    obtain ⟨y,_,rfl⟩ := List.mem_map.mp h
    exact s.isValue_payload y
  | packed =>
    cases x with
    | nil => cases h
    | cons y ys =>
      rw [List.mem_singleton.mp h]
      rfl

theorem foldlM_absorb_repeated (s : Scalar) (xs ys : List s.Carrier) :
    (xs.map s.payload).foldlM (Cardinality.absorb s .repeated) ys = some (ys ++ xs) := by
  induction xs generalizing ys with
  | nil => simp
  | cons x xs ih =>
    have hx : Cardinality.absorb s .repeated ys (s.payload x) = some (ys ++ [x]) := by
      simp [Cardinality.absorb,s.ofPayload?_payload]
    rw [List.map_cons,List.foldlM_cons,hx]
    simpa using ih (ys ++ [x])

/-- A field that starts empty takes its own payloads in. -/
theorem Cardinality.foldlM_absorb_payloads {s : Scalar} {l : Cardinality}
    (h : l = .packed → s.isVarint) (x : l.Of s.Carrier) :
    (l.payloads s x).foldlM (l.absorb s) (l.empty s) = some (l.normalize s x) := by
  cases l with
  | plain =>
    by_cases hx : s.isDefault x
    · simp [payloads,hx,empty,normalize,Scalar.normalize_of_isDefault hx]
    · have hx' : s.isDefault x = false := by simpa using hx
      simp [payloads,hx',absorb,normalize,s.ofPayload?_payload,
        Scalar.normalize_of_not_isDefault hx']
  | optional => cases x <;> simp [payloads,empty,absorb,normalize,s.ofPayload?_payload]
  | repeated => simpa [payloads,empty,normalize] using foldlM_absorb_repeated s x []
  | packed =>
    cases x with
    | nil => rfl
    | cons y ys =>
      have hu := unpack?_packedOctets (h rfl) (y :: ys)
      simp [payloads,empty,absorb,normalize,hu]

end Wire
end ClusterFramework
