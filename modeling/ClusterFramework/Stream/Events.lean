import ClusterFramework.Message.Event
import ClusterFramework.Stream.Record

/-! Events framed as records, read one by one. A record that is no event costs an error but
not the place in the stream. -/
namespace ClusterFramework
namespace Stream

def encodeEvent (e : Event) : Octets := encodeRecord (WireForm.encode e)

structure Decoder where
  source : Source
  records : UInt64 := 0
  deriving DecidableEq,Repr

namespace Decoder

def next (d : Decoder) : Except RecordError (Option Event) × Decoder :=
  match readRecord d.source with
  | (.error e,source) => (.error e,⟨source,d.records⟩)
  | (.ok none,source) => (.ok none,⟨source,d.records⟩)
  | (.ok (some payload),source) =>
    match WireForm.decode? payload with
    | none => (.error .undecodable,⟨source,d.records⟩)
    | some e => (.ok (some e),⟨source,d.records+1⟩)

def collect : Nat → Decoder → List (Except RecordError Event) × Decoder
  | 0, d => ([],d)
  | calls+1, d =>
    match d.next with
    | (.ok none,d) => ([],d)
    | (.ok (some e),d) =>
      let (items,d) := collect calls d
      (.ok e :: items,d)
    | (.error e,d) =>
      let (items,d) := collect calls d
      (.error e :: items,d)

/-- Every call but the last takes an octet or the failure, so this many reach the end. -/
def callsToEnd (s : Source) : Nat := s.octets.length+2

def all (d : Decoder) : List (Except RecordError Event) × Decoder :=
  collect (callsToEnd d.source) d

/-- One poll of the decoder as a stream: an item, and the decoder unless that was the last. -/
def poll (d : Decoder) : Option (Except RecordError Event × Option Decoder) :=
  match d.next with
  | (.ok none,_) => none
  | (.ok (some e),d) => some (.ok e,some d)
  | (.error e,_) => some (.error e,none)

def stream : Nat → Option Decoder → List (Except RecordError Event)
  | 0, _ => []
  | _+1, none => []
  | n+1, some d =>
    match d.poll with
    | none => []
    | some (item,d) => item :: stream n d

end Decoder

/-- The items up to and including the first error. -/
def upToError {α : Type} : List (Except RecordError α) → List (Except RecordError α)
  | [] => []
  | .ok a :: items => .ok a :: upToError items
  | .error e :: _ => [.error e]

def collectRecords : Nat → Source → List (Except RecordError Octets)
  | 0, _ => []
  | calls+1, s =>
    match readRecord s with
    | (.ok none,_) => []
    | (.ok (some payload),s) => .ok payload :: collectRecords calls s
    | (.error e,s) => .error e :: collectRecords calls s

def allRecords (s : Source) : List (Except RecordError Octets) :=
  collectRecords (Decoder.callsToEnd s) s

end Stream
end ClusterFramework
