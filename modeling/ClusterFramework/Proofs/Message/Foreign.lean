import ClusterFramework.Proofs.Message.RoundTrip
import ClusterFramework.Proofs.Wire.Foreign

/-! Every message type is read in the same way when fields it does not declare stand among its
own, so that a master may send more than is known here. -/
namespace ClusterFramework

open Wire WireForm

/-- Fields of undeclared numbers in front of the encoded fields of a message, between any two of
them and behind the last change nothing in what it is read as. -/
theorem decode?_interspersed_of_mem_catalog {α : Type} [WireForm α] {name : String}
    (hn : (name,schema α) ∈ catalog) (a : α) (ha : (encode a).length < UInt64.size)
    (gap : Nat → Octets) (hgap : ∀ i, (schema α).Foreign (gap i)) :
    decode? (α := α) (interspersed gap ((schema α).tokens (toRecord a))) = decode? (encode a) ∧
      decode? (encode a) = some (normalize a) := by
  have hsound := sound_of_mem_catalog _ hn
  refine ⟨?_,decode?_encode_of_sound hsound ha⟩
  exact congrArg (Option.map ofRecord) (Schema.decode?_interspersed_of_sound hsound ha hgap)

def withdrawal : Event := { kind := 3, rescind := some ⟨some ⟨"o1"⟩⟩ }

def strangers : Nat → Octets
  | 0 => [0xEB,0x04,0x08,0x07,0x43,0x0A,0x00,0x44,0xEC,0x04]
  | 1 => [0xD1,0x05,0,0,0,0,0,0,0xF0,0x3F,0xD0,0x05,0x85,0x80,0x00]
  | 2 => [0x9A,0x06,0x02,0x68,0x69,0xD5,0x05,1,2,3,4]
  | _ => []

theorem foreign_strangers (i : Nat) : (schema Event).Foreign (strangers i) := by
  match i with
  | 0 =>
    have hempty : Holds 2 [0x00] := @Holds.delimited [0x00] [] (by decide)
    have hbody : Fields 98 [0x0A,0x00] [1] :=
      .value (by decide : Opens [0x0A] 1 2) hempty .nil
    have hinside : Fields 99 [0x08,0x07,0x43,0x0A,0x00,0x44] [1,8] :=
      .value (by decide : Opens [0x08] 1 0) (.varint (by decide : Spells [0x07] 7))
        (.group (by decide : Opens [0x43] 8 3) hbody (by decide : Opens [0x44] 8 4) .nil)
    exact ⟨[77],.group (by decide : Opens [0xEB,0x04] 77 3) hinside
      (by decide : Opens [0xEC,0x04] 77 4) .nil,by decide⟩
  | 1 =>
    have hlong : Fields 100 [0xD0,0x05,0x85,0x80,0x00] [90] :=
      .value (by decide : Opens [0xD0,0x05] 90 0) (.varint (by decide : Spells [0x85,0x80,0x00] 5))
        .nil
    have hone : Holds 1 [0,0,0,0,0,0,0xF0,0x3F] := .fixed64 rfl
    exact ⟨[90,90],.value (by decide : Opens [0xD1,0x05] 90 1) hone hlong,by decide⟩
  | 2 =>
    have htext : Holds 2 [0x02,0x68,0x69] := @Holds.delimited [0x02] [0x68,0x69] (by decide)
    have hfour : Holds 5 [1,2,3,4] := .fixed32 rfl
    have hword : Fields 100 [0xD5,0x05,1,2,3,4] [90] :=
      .value (by decide : Opens [0xD5,0x05] 90 5) hfour .nil
    exact ⟨[99,90],.value (by decide : Opens [0x9A,0x06] 99 2) htext hword,by decide⟩
  | _+3 => exact ⟨[],.nil,by decide⟩

theorem decode?_withdrawal_among_strangers :
    ("Event",schema Event) ∈ catalog ∧ (encode withdrawal).length < UInt64.size ∧
      (∀ i, (schema Event).Foreign (strangers i)) ∧
      decode? ([0xEB,0x04,0x08,0x07,0x43,0x0A,0x00,0x44,0xEC,0x04,0x08,0x03,0xD1,0x05,0,0,0,0,0,0,
        0xF0,0x3F,0xD0,0x05,0x85,0x80,0x00,0x22,0x06,0x0A,0x04,0x0A,0x02,0x6F,0x31,0x9A,0x06,0x02,
        0x68,0x69,0xD5,0x05,1,2,3,4] : Octets) = some withdrawal := by
  have hn : ("Event",schema Event) ∈ catalog := by simp [catalog]
  have ha : (encode withdrawal).length < UInt64.size := by decide +kernel
  have hread := decode?_interspersed_of_mem_catalog hn withdrawal ha strangers foreign_strangers
  exact ⟨hn,ha,foreign_strangers,hread.1.trans hread.2⟩

end ClusterFramework
