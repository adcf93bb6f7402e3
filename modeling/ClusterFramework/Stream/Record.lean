import ClusterFramework.Stream.Source
import ClusterFramework.Text.Decimal
import ClusterFramework.Text.Quoted

/-! Records: a line with the payload's length in decimal, then the payload, and nothing
before the next one. -/
namespace ClusterFramework
namespace Stream

def maxRecordSize : Nat := 64*1024*1024

def maxLengthDigits : Nat := 20

def newline : UInt8 := 10

inductive RecordError where
  | invalidLength (line : Octets)
  | truncatedLength
  | truncatedRecord (expected received : Nat)
  | recordTooLarge (size : Nat)
  | io (reason : String)
  | undecodable
  deriving DecidableEq,Repr

def RecordError.message : RecordError → String
  | .invalidLength line => "invalid record length: " ++ Text.quoted (Utf8.lossy line)
  | .truncatedLength => "stream ended inside a record length"
  | .truncatedRecord expected received =>
    "stream ended inside a record: expected " ++ Text.decimal expected ++ " bytes, received " ++
      Text.decimal received
  | .recordTooLarge size =>
    "record too large: " ++ Text.decimal size ++ " bytes (max: " ++
      Text.decimal maxRecordSize ++ ")"
  | .io reason => "IO error: " ++ reason
  | .undecodable => "protobuf decode error"

def encodeRecord (payload : Octets) : Octets :=
  (Nat.toDigits 10 payload.length).map (fun c => c.toUInt8) ++ newline :: payload

def lengthOf? (line : Octets) : Option Nat :=
  if line ≠ [] ∧ line.all fun b => 48 ≤ b.toNat ∧ b.toNat ≤ 57 then
    let n := line.foldl (fun n b => 10*n+(b.toNat-48)) 0
    if n < UInt64.size then some n else none
  else none

/-- What a call makes of the end of its pieces: the failure, if one is still due, comes
before anything else. -/
def atEnd {α : Type} (failure : Option String) (otherwise : Except RecordError α) :
    Except RecordError α × Source :=
  match failure with
  | some reason => (.error (.io reason),⟨[],none⟩)
  | none => (otherwise,⟨[],none⟩)

def readPayload (size : Nat) (pieces : List Octets) (failure : Option String) :
    Except RecordError (Option Octets) × Source :=
  let (payload,rest) := blockOf size pieces
  if payload.length < size then atEnd failure (.error (.truncatedRecord size payload.length))
  else (.ok (some payload),⟨rest,failure⟩)

/-- The next record; `none` at the end of the stream, before any octet of a length line. -/
def readRecord (s : Source) : Except RecordError (Option Octets) × Source :=
  let (line,rest) := lineOf newline (maxLengthDigits+1) s.pieces
  if line.getLast? = some newline then
    let digits := line.dropLast
    match lengthOf? digits with
    | none => (.error (.invalidLength digits),⟨rest,s.failure⟩)
    | some size =>
      if maxRecordSize < size then (.error (.recordTooLarge size),⟨rest,s.failure⟩)
      else readPayload size rest s.failure
  else if maxLengthDigits < line.length then (.error (.invalidLength line),⟨rest,s.failure⟩)
  else if line = [] then atEnd s.failure (.ok none)
  else atEnd s.failure (.error .truncatedLength)

end Stream
end ClusterFramework
