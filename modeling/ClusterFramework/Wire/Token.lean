import ClusterFramework.Wire.Varint

/-! A message on the wire is a run of numbered tokens. Groups are bracketed by an opening
and a closing token of one number; what stands between them belongs to the group, so a
message's own fields are the tokens outside every group. -/
namespace ClusterFramework
namespace Wire

inductive Payload where
  | varint (w : UInt64)
  | fixed64 (w : UInt64)
  | delimited (b : Octets)
  | groupStart
  | groupEnd
  | fixed32 (w : UInt32)
  deriving DecidableEq,Repr

structure Token where
  number : Nat
  payload : Payload
  deriving DecidableEq,Repr

def Payload.code : Payload → Nat
  | .varint _ => 0
  | .fixed64 _ => 1
  | .delimited _ => 2
  | .groupStart => 3
  | .groupEnd => 4
  | .fixed32 _ => 5

def Payload.encode : Payload → Octets
  | .varint w => Wire.varint w
  | .fixed64 w => littleEndian 8 w.toNat
  | .delimited b => Wire.varint (UInt64.ofNat b.length) ++ b
  | .groupStart => []
  | .groupEnd => []
  | .fixed32 w => littleEndian 4 w.toNat

def Token.encode (t : Token) : Octets :=
  varint (UInt64.ofNat (8*t.number+t.payload.code)) ++ t.payload.encode

/-- A token whose number and length have a place on the wire. -/
structure Token.Fits (t : Token) : Prop where
  number_pos : 0 < t.number
  number_lt : t.number < 0x20000000
  length_lt : ∀ b, t.payload = .delimited b → b.length < UInt64.size

/-- Splits off exactly `n` octets. -/
def take? (n : Nat) (b : Octets) : Option (Octets × Octets) :=
  if n ≤ b.length then some (b.take n,b.drop n) else none

@[simp] theorem take?_append (a b : Octets) : take? a.length (a ++ b) = some (a,b) := by
  simp [take?]

theorem take?_le {n : Nat} {b p rest : Octets} (h : take? n b = some (p,rest)) :
    rest.length ≤ b.length := by
  unfold take? at h
  split at h
  · cases h; simp
  · cases h

def readPayload? (code : Nat) (b : Octets) : Option (Payload × Octets) :=
  match code with
  | 0 => (readVarint? b).map fun (w,rest) => (.varint w,rest)
  | 1 => (take? 8 b).map fun (p,rest) => (.fixed64 (UInt64.ofNat (ofLittleEndian p)),rest)
  | 2 => (readVarint? b).bind fun (n,rest) =>
      (take? n.toNat rest).map fun (p,rest) => (.delimited p,rest)
  | 3 => some (.groupStart,b)
  | 4 => some (.groupEnd,b)
  | 5 => (take? 4 b).map fun (p,rest) => (.fixed32 (UInt32.ofNat (ofLittleEndian p)),rest)
  | _ => none

/-- The first token and the octets after it. A key takes 32 bits at most and its number is
not zero. -/
def readToken? (b : Octets) : Option (Token × Octets) :=
  (readVarint? b).bind fun (key,rest) =>
    if key.toNat < UInt32.size ∧ 8 ≤ key.toNat then
      (readPayload? (key.toNat%8) rest).map fun (p,rest) => (⟨key.toNat/8,p⟩,rest)
    else none

theorem readPayload?_le {code : Nat} {b rest : Octets} {p : Payload}
    (h : readPayload? code b = some (p,rest)) : rest.length ≤ b.length := by
  unfold readPayload? at h
  split at h
  · simp only [Option.map_eq_some_iff] at h
    obtain ⟨⟨w,r⟩,hr,he⟩ := h
    cases he; exact Nat.le_of_lt (readVarint?_shorter hr)
  · simp only [Option.map_eq_some_iff] at h
    obtain ⟨⟨q,r⟩,hr,he⟩ := h
    cases he; exact take?_le hr
  · simp only [Option.bind_eq_some_iff,Option.map_eq_some_iff] at h
    obtain ⟨⟨n,r⟩,hr,⟨q,r'⟩,hq,he⟩ := h
    cases he
    exact Nat.le_trans (take?_le hq) (Nat.le_of_lt (readVarint?_shorter hr))
  · cases h; exact Nat.le_refl _
  · cases h; exact Nat.le_refl _
  · simp only [Option.map_eq_some_iff] at h
    obtain ⟨⟨q,r⟩,hr,he⟩ := h
    cases he; exact take?_le hr
  · cases h

theorem readToken?_shorter {b rest : Octets} {t : Token}
    (h : readToken? b = some (t,rest)) : rest.length < b.length := by
  simp only [readToken?,Option.bind_eq_some_iff] at h
  obtain ⟨⟨key,r⟩,hr,h⟩ := h
  split at h
  · simp only [Option.map_eq_some_iff] at h
    obtain ⟨⟨p,r'⟩,hp,he⟩ := h
    cases he
    exact Nat.lt_of_le_of_lt (readPayload?_le hp) (readVarint?_shorter hr)
  · cases h

def tokens? (b : Octets) : Option (List Token) :=
  if b = [] then some []
  else
    match h : readToken? b with
    | none => none
    | some (t,rest) =>
      have := readToken?_shorter h
      (tokens? rest).map (t :: ·)
  termination_by b.length

/-- The tokens outside every group, an unread group standing for itself by its opening
token. `opened` holds the numbers of the groups entered; they nest at most `limit` deep,
and no token may stand at that depth. -/
def ungrouped? (limit : Nat) : List Nat → List Token → Option (List Token)
  | [], [] => some []
  | _ :: _, [] => none
  | opened, t :: ts =>
    match t.payload, opened with
    | .groupEnd, [] => none
    | .groupEnd, number :: outer =>
      if number = t.number then ungrouped? limit outer ts else none
    | .groupStart, _ =>
      if limit ≤ opened.length then none
      else if opened = [] then (ungrouped? limit (t.number :: opened) ts).map (t :: ·)
      else ungrouped? limit (t.number :: opened) ts
    | _, [] => if limit = 0 then none else (ungrouped? limit [] ts).map (t :: ·)
    | _, _ :: _ => if limit ≤ opened.length then none else ungrouped? limit opened ts

def fields? (limit : Nat) (b : Octets) : Option (List Token) :=
  (tokens? b).bind (ungrouped? limit [])

end Wire
end ClusterFramework
