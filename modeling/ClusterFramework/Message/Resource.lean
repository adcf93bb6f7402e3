import ClusterFramework.Message.Identity

/-! Named quantities that agents offer and tasks demand. -/
namespace ClusterFramework

open Wire WireForm

structure ScalarValue where
  value : Binary64 := .zero
  deriving DecidableEq,Repr

instance ScalarValue.instWireForm : WireForm ScalarValue where
  schema := .field 1 "value" .plain .double .done
  toRecord m := (m.value,())
  ofRecord | (value,()) => ⟨value⟩
  ofRecord_toRecord _ := by simp
  toRecord_ofRecord _ := by simp

/-- Both ends belong to the range. -/
structure RangeValue where
  first : UInt64 := 0
  last : UInt64 := 0
  deriving DecidableEq,Repr

instance RangeValue.instWireForm : WireForm RangeValue where
  schema :=
    .field 1 "begin" .plain .uint64 <|
    .field 2 "end" .plain .uint64 .done
  toRecord m := (m.first,m.last,())
  ofRecord | (first,last,()) => ⟨first,last⟩
  ofRecord_toRecord _ := by simp
  toRecord_ofRecord _ := by simp

structure RangesValue where
  range : List RangeValue := []
  deriving DecidableEq,Repr

instance RangesValue.instWireForm : WireForm RangesValue where
  schema := .children 1 "range" (schema RangeValue) .done
  toRecord m := (toChildren m.range,())
  ofRecord | (range,()) => ⟨ofChildren range⟩
  ofRecord_toRecord _ := by simp
  toRecord_ofRecord _ := by simp

structure SetValue where
  item : List String := []
  deriving DecidableEq,Repr

instance SetValue.instWireForm : WireForm SetValue where
  schema := .field 1 "item" .repeated .string .done
  toRecord m := (m.item,())
  ofRecord | (item,()) => ⟨item⟩
  ofRecord_toRecord _ := by simp
  toRecord_ofRecord _ := by simp

structure Persistence where
  id : String := ""
  principal : Option String := none
  deriving DecidableEq,Repr

instance Persistence.instWireForm : WireForm Persistence where
  schema :=
    .field 1 "id" .plain .string <|
    .field 2 "principal" .optional .string .done
  toRecord m := (m.id,m.principal,())
  ofRecord | (id,principal,()) => ⟨id,principal⟩
  ofRecord_toRecord _ := by simp
  toRecord_ofRecord _ := by simp

/-- A directory of the host seen inside a container. -/
structure Volume where
  containerPath : String := ""
  hostPath : Option String := none
  mode : Int32 := 1
  deriving DecidableEq,Repr

instance Volume.instWireForm : WireForm Volume where
  schema :=
    .field 1 "container_path" .plain .string <|
    .field 2 "host_path" .optional .string <|
    .field 3 "mode" .plain (.enumeration 1) .done
  toRecord m := (m.containerPath,m.hostPath,m.mode,())
  ofRecord | (containerPath,hostPath,mode,()) => ⟨containerPath,hostPath,mode⟩
  ofRecord_toRecord _ := by simp
  toRecord_ofRecord _ := by simp

namespace Volume

def readWrite : Int32 := 1

def readOnly : Int32 := 2

end Volume

structure DiskInfo where
  persistence : Option Persistence := none
  volume : Option Volume := none
  deriving DecidableEq,Repr

instance DiskInfo.instWireForm : WireForm DiskInfo where
  schema :=
    .child 1 "persistence" (schema Persistence) <|
    .child 2 "volume" (schema Volume) .done
  toRecord m := (toChild m.persistence,toChild m.volume,())
  ofRecord | (persistence,volume,()) => ⟨ofChild persistence,ofChild volume⟩
  ofRecord_toRecord _ := by simp
  toRecord_ofRecord _ := by simp

structure Resource where
  name : String := ""
  kind : Int32 := 0
  scalar : Option ScalarValue := none
  ranges : Option RangesValue := none
  set : Option SetValue := none
  role : Option String := none
  disk : Option DiskInfo := none
  deriving DecidableEq,Repr

instance Resource.instWireForm : WireForm Resource where
  schema :=
    .field 1 "name" .plain .string <|
    .field 2 "type" .plain (.enumeration 0) <|
    .child 3 "scalar" (schema ScalarValue) <|
    .child 4 "ranges" (schema RangesValue) <|
    .child 5 "set" (schema SetValue) <|
    .field 6 "role" .optional .string <|
    .child 7 "disk" (schema DiskInfo) .done
  toRecord m := (m.name,m.kind,toChild m.scalar,toChild m.ranges,toChild m.set,m.role,
    toChild m.disk,())
  ofRecord
    | (name,kind,scalar,ranges,set,role,disk,()) =>
      ⟨name,kind,ofChild scalar,ofChild ranges,ofChild set,role,ofChild disk⟩
  ofRecord_toRecord _ := by simp
  toRecord_ofRecord _ := by simp

namespace Resource

def scalarKind : Int32 := 0

def rangesKind : Int32 := 1

def ofScalar (name : String) (amount : Binary64) : Resource :=
  { name := name, kind := scalarKind, scalar := some ⟨amount⟩ }

def ofRanges (name : String) (ranges : List (UInt64 × UInt64)) : Resource :=
  { name := name, kind := rangesKind, ranges := some ⟨ranges.map fun r => ⟨r.1,r.2⟩⟩ }

/-- The scalar amount; zero for a resource of another kind. -/
def amount (r : Resource) : Binary64 := (r.scalar.map ScalarValue.value).getD .zero

end Resource

/-- The amounts of the resources called `name`, added up in list order. -/
def scalarTotal (name : String) (rs : List Resource) : Binary64 :=
  Binary64.sum ((rs.filter fun r => r.name = name).map Resource.amount)

/-- The first disk description among the resources called `name`. -/
def diskOf (name : String) (rs : List Resource) : Option DiskInfo :=
  (rs.filter fun r => r.name = name).findSome? Resource.disk

end ClusterFramework
