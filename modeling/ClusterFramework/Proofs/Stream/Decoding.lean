import ClusterFramework.Proofs.Message.RoundTrip
import ClusterFramework.Proofs.Stream.Records

/-! A run of records is answered record by record. A payload that is no event costs its own
answer and nothing else; as a stream the decoder stops behind the first such answer. -/
namespace ClusterFramework
namespace Stream

open WireForm

def answerOf (payload : Octets) : Except RecordError Event :=
  match decode? payload with
  | none => .error .undecodable
  | some e => .ok e

def isEvent (payload : Octets) : Bool := (decode? (α := Event) payload).isSome

theorem answerOf_encode {e : Event} (h : (encode e).length ≤ maxRecordSize) :
    answerOf (encode e) = .ok (normalize e) := by
  have hsound : (schema Event).Sound := sound_of_mem_catalog ("Event",schema Event) (by simp [catalog])
  have hd := decode?_encode_of_sound hsound (Nat.lt_of_le_of_lt h (by decide))
  rw [answerOf,hd]

namespace Decoder

def answers : Nat → Decoder → List (Except RecordError (Option Event)) × Decoder
  | 0, d => ([],d)
  | n+1, d =>
    let (answer,d) := d.next
    let (more,d) := answers n d
    (answer :: more,d)

theorem stream_none (n : Nat) : stream n none = [] := by cases n <;> rfl

theorem stream_eq_upToError (n : Nat) (d : Decoder) :
    stream n (some d) = upToError (collect n d).1 := by
  induction n generalizing d with
  | zero => rfl
  | succ n ih =>
    rw [stream,poll,collect]
    generalize d.next = r
    obtain ⟨answer,d⟩ := r
    cases answer with
    | error e => simp [upToError,stream_none]
    | ok event =>
      cases event with
      | none => rfl
      | some e => simp [upToError,ih]

/-- Calls that find items and then the end are collected as these items. -/
theorem collect_of_answers {items : List (Except RecordError Event)} {n : Nat} {d d' : Decoder}
    (h : d.answers (items.length+1) = (items.map (Except.map some) ++ [.ok none],d'))
    (hn : items.length < n) : d.collect n = (items,d') := by
  induction items generalizing d n with
  | nil =>
    obtain ⟨n,rfl⟩ : ∃ m, n = m+1 := Nat.exists_eq_succ_of_ne_zero (by omega)
    simp only [List.length_nil,answers] at h
    rw [collect]
    generalize d.next = r at h
    obtain ⟨answer,d⟩ := r
    simp only [List.map_nil,List.nil_append,Prod.mk.injEq,List.cons.injEq,and_true] at h
    obtain ⟨rfl,rfl⟩ := h
    rfl
  | cons item items ih =>
    obtain ⟨n,rfl⟩ : ∃ m, n = m+1 := Nat.exists_eq_succ_of_ne_zero (by omega)
    rw [List.length_cons,answers] at h
    rw [collect]
    generalize d.next = r at h
    obtain ⟨answer,d⟩ := r
    simp only [List.map_cons,List.cons_append,Prod.mk.injEq,List.cons.injEq] at h
    obtain ⟨⟨rfl,hmore⟩,hd⟩ := h
    have hc : d.collect n = (items,d') :=
      ih (Prod.ext hmore hd) (Nat.lt_of_succ_lt_succ hn)
    cases item with
    | error e => simp [Except.map,hc]
    | ok e => simp [Except.map,hc]

/-- Whatever a record holds, the next call answers it and comes to stand behind it. -/
theorem next_encodeRecord {d : Decoder} {payload rest : Octets}
    (hs : d.source.octets = encodeRecord payload ++ rest) (hp : payload.length ≤ maxRecordSize) :
    ∃ left : Source, d.next = ((answerOf payload).map some,
        ⟨left,d.records+UInt64.ofNat ([payload].countP isEvent)⟩) ∧
      left.octets = rest ∧ left.failure = d.source.failure := by
  obtain ⟨left,hr,hl,hf⟩ := readRecord_encodeRecord hs hp
  refine ⟨left,?_,hl,hf⟩
  rw [next,hr]
  cases he : decode? (α := Event) payload with
  | none => simp [answerOf,isEvent,he,Except.map]
  | some e => simp [answerOf,isEvent,he,Except.map]

theorem next_nil {d : Decoder} (hs : d.source.octets = []) (hf : d.source.failure = none) :
    d.next = (.ok none,⟨⟨[],none⟩,d.records⟩) := by
  rw [next,readRecord_nil hs hf]

theorem answers_nil (n : Nat) {d : Decoder} (hs : d.source.octets = [])
    (hf : d.source.failure = none) :
    (d.answers n).1 = List.replicate n (.ok none) ∧ (d.answers n).2.records = d.records := by
  induction n generalizing d with
  | zero => exact ⟨rfl,rfl⟩
  | succ n ih =>
    have h := ih (d := ⟨⟨[],none⟩,d.records⟩) rfl rfl
    simp [answers,next_nil hs hf,h,List.replicate_succ]

theorem answers_encodeRecord {payloads : List Octets}
    (hp : ∀ p ∈ payloads, p.length ≤ maxRecordSize) {d : Decoder}
    (hs : d.source.octets = payloads.flatMap encodeRecord) (hf : d.source.failure = none) (n : Nat) :
    (d.answers n).1 = ((payloads.map answerOf).map (Except.map some)).take n ++
        List.replicate (n-payloads.length) (.ok none) ∧
      (d.answers n).2.records = d.records+UInt64.ofNat ((payloads.take n).countP isEvent) := by
  induction payloads generalizing d n with
  | nil => simpa using answers_nil n hs hf
  | cons p ps ih =>
    cases n with
    | zero => simp [answers]
    | succ n =>
      have hps : ∀ q ∈ ps, q.length ≤ maxRecordSize := fun q hq => hp q (List.mem_cons_of_mem _ hq)
      obtain ⟨left,hnext,hl,hlf⟩ := next_encodeRecord (d := d) hs (hp p List.mem_cons_self)
      obtain ⟨ha,hr⟩ := ih hps (d := ⟨left,d.records+UInt64.ofNat ([p].countP isEvent)⟩) hl
        (hlf.trans hf) n
      have hcount : ((p :: ps).take (n+1)).countP isEvent =
          [p].countP isEvent+(ps.take n).countP isEvent := by
        rw [List.take_succ_cons,← List.countP_append]
        rfl
      constructor
      · rw [answers,hnext]
        simp only [ha,List.map_cons,List.take_succ_cons,List.cons_append,List.length_cons,
          Nat.add_sub_add_right]
      · rw [answers,hnext,hcount,UInt64.ofNat_add]
        simpa [UInt64.add_assoc] using hr

end Decoder

/-- A run of records, split in whatever way, is answered with one item for each payload and
from then on with the end. The count is of the payloads that were events; a stream of the
same octets stops behind the first item that is none; and events come back as they were sent,
but for the sign of a zero. -/
theorem answers_of_records (payloads : List Octets)
    (hp : ∀ p ∈ payloads, p.length ≤ maxRecordSize) (pieces : List Octets)
    (hs : pieces.flatten = payloads.flatMap encodeRecord) :
    let d : Decoder := ⟨⟨pieces,none⟩,0⟩
    let items := payloads.map answerOf
    (∀ n, (d.answers n).1 = (items.map (Except.map some)).take n ++
        List.replicate (n-payloads.length) (.ok none)) ∧
      (∀ n, (d.answers n).2.records = UInt64.ofNat ((payloads.take n).countP isEvent)) ∧
      d.all.1 = items ∧ d.all.2.records = UInt64.ofNat (payloads.countP isEvent) ∧
      (∀ n, payloads.length < n → Decoder.stream n (some d) = upToError items) ∧
      ∀ es : List Event, payloads = es.map encode →
        payloads.flatMap encodeRecord = es.flatMap encodeEvent ∧
          items = es.map fun e => .ok (normalize e) := by
  intro d items
  have ha := Decoder.answers_encodeRecord hp (d := d) hs rfl
  have hend := ha (items.length+1)
  have hlen : items.length = payloads.length := List.length_map _
  have htake : payloads.take (items.length+1) = payloads := List.take_of_length_le (by omega)
  have hsub : items.length+1-payloads.length = 1 := by omega
  have hanswers : d.answers (items.length+1) =
      (items.map (Except.map some) ++ [.ok none],(d.answers (items.length+1)).2) := by
    refine Prod.ext ?_ rfl
    rw [hend.1,hsub,List.take_of_length_le (by simp [items])]
    rfl
  have hcollect : ∀ n, payloads.length < n →
      d.collect n = (items,(d.answers (items.length+1)).2) := fun n hn =>
    Decoder.collect_of_answers hanswers (by omega)
  have hall : d.all = (items,(d.answers (items.length+1)).2) := by
    refine hcollect _ ?_
    have hle := length_le_length_flatMap_encodeRecord payloads
    rw [← hs] at hle
    exact Nat.lt_of_le_of_lt hle (Nat.lt_succ_of_lt (Nat.lt_succ_self _))
  refine ⟨fun n => (ha n).1,fun n => ?_,by rw [hall],?_,fun n hn => ?_,?_⟩
  · rw [(ha n).2,UInt64.zero_add]
  · rw [hall,hend.2,htake,UInt64.zero_add]
  · rw [Decoder.stream_eq_upToError,hcollect n hn]
  · rintro es rfl
    have he : ∀ e ∈ es, answerOf (encode e) = .ok (normalize e) := fun e he =>
      answerOf_encode (hp _ (List.mem_map_of_mem he))
    refine ⟨by rw [List.flatMap_map]; rfl,?_⟩
    simpa [items] using he

/-- The first payload looks like a length line and is no event; the second one is. -/
def twoPayloads : List Octets := [[49,10],[8,7]]

def twoRecords : Decoder := ⟨⟨[[50],[10,49],[],[10,50,10,8],[7]],none⟩,0⟩

theorem answers_twoRecords :
    (∀ p ∈ twoPayloads, p.length ≤ maxRecordSize) ∧
      twoRecords.source.pieces.flatten = twoPayloads.flatMap encodeRecord ∧
      (twoRecords.answers 3).1 = [.error .undecodable,.ok (some { kind := 7 }),.ok none] ∧
      Decoder.stream 3 (some twoRecords) = [.error .undecodable] := by
  have hp : ∀ p ∈ twoPayloads, p.length ≤ maxRecordSize := by decide
  have hs : twoRecords.source.pieces.flatten = twoPayloads.flatMap encodeRecord := by decide +kernel
  have hbad : (decode? [49,10] : Option Event) = none := by decide +kernel
  have hgood : (decode? [8,7] : Option Event) = some { kind := 7 } := by decide +kernel
  have hitems : twoPayloads.map answerOf = [.error .undecodable,.ok { kind := 7 }] := by
    simp [twoPayloads,answerOf,hbad,hgood]
  obtain ⟨ha,_,_,_,hstream,_⟩ := answers_of_records twoPayloads hp twoRecords.source.pieces hs
  rw [hitems] at ha hstream
  exact ⟨hp,hs,ha 3,hstream 3 (by decide)⟩

end Stream
end ClusterFramework
