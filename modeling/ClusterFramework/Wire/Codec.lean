import ClusterFramework.Wire.Schema

/-! Writing and reading the records of a schema. Plain fields at their default are left
out; on reading, undeclared fields are skipped, the last scalar wins, and the occurrences of
one child are merged. -/
namespace ClusterFramework
namespace Wire

def packedOctets (s : Scalar) (xs : List s.Carrier) : Octets :=
  xs.flatMap fun x => (s.payload x).encode

def Cardinality.tokens (number : Nat) (s : Scalar) : (l : Cardinality) → l.Of s.Carrier → List Token
  | .plain, x => if s.isDefault x then [] else [⟨number,s.payload x⟩]
  | .optional, x => x.toList.map fun x => ⟨number,s.payload x⟩
  | .repeated, xs => xs.map fun x => ⟨number,s.payload x⟩
  | .packed, [] => []
  | .packed, x :: xs => [⟨number,.delimited (packedOctets s (x :: xs))⟩]

def unpack? (s : Scalar) (b : Octets) : Option (List s.Carrier) :=
  if b = [] then some []
  else
    match h : readVarint? b with
    | none => none
    | some (w,rest) =>
      have := readVarint?_shorter h
      (s.ofPayload? (.varint w)).bind fun x => (unpack? s rest).map (x :: ·)
  termination_by b.length

/-- What a field holds after one more token of its number. -/
def Cardinality.absorb (s : Scalar) : (l : Cardinality) → l.Of s.Carrier → Payload →
    Option (l.Of s.Carrier)
  | .plain, _, p => s.ofPayload? p
  | .optional, _, p => (s.ofPayload? p).map some
  | .repeated, xs, p => (s.ofPayload? p).map fun x => xs ++ [x]
  | .packed, xs, .delimited b => (unpack? s b).map (xs ++ ·)
  | .packed, xs, p => (s.ofPayload? p).map fun x => xs ++ [x]

namespace Schema

def tokens : (s : Schema) → s.Record → List Token
  | done, _ => []
  | field number _ cardinality type rest, (x,r) => cardinality.tokens number type x ++ rest.tokens r
  | child number _ body rest, (m,r) =>
    (m.toList.map fun m => ⟨number,.delimited ((body.tokens m).flatMap Token.encode)⟩)
      ++ rest.tokens r
  | children number _ body rest, (ms,r) =>
    (ms.map fun m => ⟨number,.delimited ((body.tokens m).flatMap Token.encode)⟩)
      ++ rest.tokens r

def encode (s : Schema) (r : s.Record) : Octets := (s.tokens r).flatMap Token.encode

/-- The record after one more token. `limit` is how many messages deep the token's payload
may still go. -/
def absorb : (s : Schema) → (limit : Nat) → s.Record → Token → Option s.Record
  | done, _, r, _ => some r
  | field number _ cardinality type rest, limit, (x,r), t =>
    if t.number = number then (cardinality.absorb type x t.payload).map (·,r)
    else (rest.absorb limit r t).map (x,·)
  | child number _ body rest, limit, (m,r), t =>
    if t.number = number then
      match limit, t.payload with
      | limit+1, .delimited b =>
        ((fields? limit b).bind fun ts =>
          ts.foldlM (fun m t => body.absorb limit m t) (m.getD body.empty)).map (some ·,r)
      | _, _ => none
    else (rest.absorb limit r t).map (m,·)
  | children number _ body rest, limit, (ms,r), t =>
    if t.number = number then
      match limit, t.payload with
      | limit+1, .delimited b =>
        ((fields? limit b).bind fun ts =>
          ts.foldlM (fun m t => body.absorb limit m t) body.empty).map (ms ++ [·],r)
      | _, _ => none
    else (rest.absorb limit r t).map (ms,·)

/-- Messages and groups may nest this deep. -/
def nestingLimit : Nat := 100

def decode? (s : Schema) (b : Octets) : Option s.Record :=
  (fields? nestingLimit b).bind fun ts => ts.foldlM (s.absorb nestingLimit) s.empty

theorem absorb_of_not_mem {s : Schema} {limit : Nat} {r : s.Record} {t : Token}
    (h : t.number ∉ s.numbers) : s.absorb limit r t = some r := by
  induction s with
  | done => rfl
  | field number name cardinality type rest ih =>
    simp only [numbers,List.mem_cons,not_or] at h
    simp [absorb,h.1,ih h.2]
  | child number name body rest _ ih =>
    simp only [numbers,List.mem_cons,not_or] at h
    simp [absorb,h.1,ih h.2]
  | children number name body rest _ ih =>
    simp only [numbers,List.mem_cons,not_or] at h
    simp [absorb,h.1,ih h.2]

end Schema
end Wire
end ClusterFramework
