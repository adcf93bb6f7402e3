import ClusterFramework.Binary64.Basic
import ClusterFramework.Wire.Token

/-! What a message type declares, and the values of such a type. A schema lists the fields
in ascending number; a record holds one entry for each. -/
namespace ClusterFramework
namespace Wire

/-- The type of a field that is not itself a message. An enumeration is named by the number
its values default to. -/
inductive Scalar where
  | bool
  | int32
  | int64
  | uint32
  | uint64
  | enumeration (first : Int32)
  | double
  | string
  | bytes
  deriving DecidableEq,Repr

@[reducible] def Scalar.Carrier : Scalar → Type
  | .bool => Bool
  | .int32 => Int32
  | .int64 => Int64
  | .uint32 => UInt32
  | .uint64 => UInt64
  | .enumeration _ => Int32
  | .double => Binary64
  | .string => String
  | .bytes => Octets

def Scalar.default : (s : Scalar) → s.Carrier
  | .bool => false
  | .int32 => 0
  | .int64 => 0
  | .uint32 => 0
  | .uint64 => 0
  | .enumeration first => first
  | .double => Binary64.zero
  | .string => ""
  | .bytes => []

/-- A double is at its default when it is zero, of either sign. -/
def Scalar.isDefault : (s : Scalar) → s.Carrier → Bool
  | .bool, b => !b
  | .int32, n => n == 0
  | .int64, n => n == 0
  | .uint32, n => n == 0
  | .uint64, n => n == 0
  | .enumeration first, n => n == first
  | .double, x => x.isZero
  | .string, s => s == ""
  | .bytes, b => b.isEmpty

def Scalar.payload : (s : Scalar) → s.Carrier → Payload
  | .bool, b => .varint (if b then 1 else 0)
  | .int32, n => .varint n.toInt64.toUInt64
  | .int64, n => .varint n.toUInt64
  | .uint32, n => .varint n.toUInt64
  | .uint64, n => .varint n
  | .enumeration _, n => .varint n.toInt64.toUInt64
  | .double, x => .fixed64 x.bits
  | .string, s => .delimited (Utf8.encode s)
  | .bytes, b => .delimited b

def Scalar.ofPayload? : (s : Scalar) → Payload → Option s.Carrier
  | .bool, .varint w => some (w ≠ 0)
  | .int32, .varint w => some w.toUInt32.toInt32
  | .int64, .varint w => some w.toInt64
  | .uint32, .varint w => some w.toUInt32
  | .uint64, .varint w => some w
  | .enumeration _, .varint w => some w.toUInt32.toInt32
  | .double, .fixed64 w => some ⟨w⟩
  | .string, .delimited b => Utf8.decode? b
  | .bytes, .delimited b => some b
  | _, _ => none

/-- How often a scalar field may occur. A packed field holds all its varints in one token. -/
inductive Cardinality where
  | plain
  | optional
  | repeated
  | packed
  deriving DecidableEq,Repr

@[reducible] def Cardinality.Of : Cardinality → Type → Type
  | .plain, α => α
  | .optional, α => Option α
  | .repeated, α => List α
  | .packed, α => List α

def Cardinality.empty (s : Scalar) : (l : Cardinality) → l.Of s.Carrier
  | .plain => s.default
  | .optional => none
  | .repeated => []
  | .packed => []

inductive Schema where
  | done
  | field (number : Nat) (name : String) (cardinality : Cardinality) (type : Scalar) (rest : Schema)
  | child (number : Nat) (name : String) (body : Schema) (rest : Schema)
  | children (number : Nat) (name : String) (body : Schema) (rest : Schema)
  deriving DecidableEq,Repr

namespace Schema

@[reducible] def Record : Schema → Type
  | done => Unit
  | field _ _ cardinality type rest => cardinality.Of type.Carrier × rest.Record
  | child _ _ body rest => Option body.Record × rest.Record
  | children _ _ body rest => List body.Record × rest.Record

def empty : (s : Schema) → s.Record
  | done => ()
  | field _ _ cardinality type rest => (cardinality.empty type,rest.empty)
  | child _ _ _ rest => (none,rest.empty)
  | children _ _ _ rest => ([],rest.empty)

def numbers : Schema → List Nat
  | done => []
  | field number _ _ _ rest => number :: rest.numbers
  | child number _ _ rest => number :: rest.numbers
  | children number _ _ rest => number :: rest.numbers

def depth : Schema → Nat
  | done => 1
  | field _ _ _ _ rest => rest.depth
  | child _ _ body rest => max (body.depth+1) rest.depth
  | children _ _ body rest => max (body.depth+1) rest.depth

/-- Numbers ascend from `above` on and fit a key, here and in every body. -/
def Ascending : Nat → Schema → Prop
  | _, done => True
  | above, field number _ _ _ rest => above < number ∧ number < 0x20000000 ∧ Ascending number rest
  | above, child number _ body rest =>
    above < number ∧ number < 0x20000000 ∧ Ascending 0 body ∧ Ascending number rest
  | above, children number _ body rest =>
    above < number ∧ number < 0x20000000 ∧ Ascending 0 body ∧ Ascending number rest

instance decidableAscending : (above : Nat) → (s : Schema) → Decidable (Ascending above s)
  | _, done => inferInstanceAs (Decidable True)
  | above, field number _ _ _ rest =>
    have := decidableAscending number rest
    inferInstanceAs (Decidable (above < number ∧ number < 0x20000000 ∧ Ascending number rest))
  | above, child number _ body rest =>
    have := decidableAscending 0 body
    have := decidableAscending number rest
    inferInstanceAs
      (Decidable (above < number ∧ number < 0x20000000 ∧ Ascending 0 body ∧ Ascending number rest))
  | above, children number _ body rest =>
    have := decidableAscending 0 body
    have := decidableAscending number rest
    inferInstanceAs
      (Decidable (above < number ∧ number < 0x20000000 ∧ Ascending 0 body ∧ Ascending number rest))

end Schema
end Wire
end ClusterFramework
