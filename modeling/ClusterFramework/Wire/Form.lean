import ClusterFramework.Wire.Codec

/-! Types with a wire form: each is a structure in step with the records of its schema. -/
namespace ClusterFramework

open Wire

class WireForm (α : Type) where
  schema : Schema
  toRecord : α → schema.Record
  ofRecord : schema.Record → α
  ofRecord_toRecord : ∀ a, ofRecord (toRecord a) = a
  toRecord_ofRecord : ∀ r, toRecord (ofRecord r) = r

namespace WireForm

variable {α : Type} [WireForm α]

def encode (a : α) : Octets := (schema α).encode (toRecord a)

def decode? (b : Octets) : Option α := ((schema α).decode? b).map ofRecord

def toChild (m : Option α) : Option (schema α).Record := m.map toRecord

def ofChild (m : Option (schema α).Record) : Option α := m.map ofRecord

def toChildren (ms : List α) : List (schema α).Record := ms.map toRecord

def ofChildren (ms : List (schema α).Record) : List α := ms.map ofRecord

@[simp] theorem ofChild_toChild (m : Option α) : ofChild (toChild m) = m := by
  cases m <;> simp [ofChild,toChild,ofRecord_toRecord]

@[simp] theorem toChild_ofChild (m : Option (schema α).Record) : toChild (ofChild m) = m := by
  cases m <;> simp [ofChild,toChild,toRecord_ofRecord]

@[simp] theorem ofChildren_toChildren (ms : List α) : ofChildren (toChildren ms) = ms := by
  simp [ofChildren,toChildren,Function.comp_def,ofRecord_toRecord]

@[simp] theorem toChildren_ofChildren (ms : List (schema α).Record) :
    toChildren (ofChildren ms) = ms := by
  simp [ofChildren,toChildren,Function.comp_def,toRecord_ofRecord]

end WireForm
end ClusterFramework
