import ClusterFramework.Message.Catalog
import ClusterFramework.Proofs.Wire.RoundTrip

/-! Every message type of the scheduler interface comes back from the wire as it was sent.
Only the sign of a zero can be lost, and only in the amount of a scalar resource. -/
namespace ClusterFramework

open Wire WireForm

namespace Wire

def Cardinality.plainDoubles : (s : Scalar) → (l : Cardinality) → l.Of s.Carrier → List Binary64
  | .double, .plain, x => [x]
  | _, _, _ => []

theorem Cardinality.normalize_eq_self_iff (s : Scalar) (l : Cardinality) (x : l.Of s.Carrier) :
    l.normalize s x = x ↔ Binary64.negZero ∉ l.plainDoubles s x := by
  cases l with
  | plain =>
    cases s with
    | double =>
      by_cases hx : x = Binary64.negZero
      · subst hx
        exact iff_of_false (by decide) (by decide)
      · simp [normalize,Scalar.normalize,plainDoubles,hx,Ne.symm hx]
    | _ => exact iff_of_true rfl List.not_mem_nil
  | optional | repeated | packed => cases s <;> exact iff_of_true rfl List.not_mem_nil

namespace Schema

/-- The plain doubles of a record, at every depth. -/
def plainDoubles : (s : Schema) → s.Record → List Binary64
  | done, _ => []
  | field _ _ cardinality type rest, (x,r) =>
    cardinality.plainDoubles type x ++ rest.plainDoubles r
  | child _ _ body rest, (m,r) => m.toList.flatMap body.plainDoubles ++ rest.plainDoubles r
  | children _ _ body rest, (ms,r) => ms.flatMap body.plainDoubles ++ rest.plainDoubles r

theorem normalize_eq_self_iff (s : Schema) (r : s.Record) :
    s.normalize r = r ↔ Binary64.negZero ∉ s.plainDoubles r := by
  induction s with
  | done => exact iff_of_true rfl List.not_mem_nil
  | field number name l type rest ih =>
    obtain ⟨x,r⟩ := r
    simp only [normalize,plainDoubles,Prod.mk.injEq,List.mem_append,not_or,ih,
      Cardinality.normalize_eq_self_iff]
  | child number name body rest ihb ih =>
    obtain ⟨m,r⟩ := r
    simp only [normalize,plainDoubles,Prod.mk.injEq,List.mem_append,not_or,ih]
    cases m <;> simp [ihb]
  | children number name body rest ihb ih =>
    obtain ⟨ms,r⟩ := r
    have hms : ms.map body.normalize = ms ↔ ∀ m ∈ ms, body.normalize m = m := by
      simpa using List.map_inj_left (f := body.normalize) (g := id) (l := ms)
    simp only [normalize,plainDoubles,Prod.mk.injEq,List.mem_append,not_or,ih,hms,ihb,
      List.mem_flatMap,not_exists,not_and]

def inner : Schema → List Schema
  | done => []
  | field _ _ _ _ rest => rest.inner
  | child _ _ body rest => body :: body.inner ++ rest.inner
  | children _ _ body rest => body :: body.inner ++ rest.inner

def declaresPlainDouble : Schema → Bool
  | done => false
  | field _ _ .plain .double _ => true
  | field _ _ _ _ rest => rest.declaresPlainDouble
  | child _ _ _ rest => rest.declaresPlainDouble
  | children _ _ _ rest => rest.declaresPlainDouble

end Schema
end Wire

theorem sound_of_mem_catalog : ∀ e ∈ catalog, e.2.Sound := by decide +kernel

theorem scalar_of_declaresPlainDouble :
    ∀ e ∈ catalog, ∀ s ∈ e.2 :: e.2.inner, s.declaresPlainDouble → s = schema ScalarValue := by
  decide +kernel

theorem WireForm.normalize_eq_self_iff {α : Type} [WireForm α] (a : α) :
    normalize a = a ↔ Binary64.negZero ∉ (schema α).plainDoubles (toRecord a) := by
  rw [← Schema.normalize_eq_self_iff,normalize]
  constructor
  · intro h
    rw [← toRecord_ofRecord ((schema α).normalize (toRecord a)),h]
  · intro h
    rw [h,ofRecord_toRecord]

/-- An encoding held in memory is read back to the value it was made of, except that a
minus zero in the amount of a scalar, which counts as the default, comes back as zero. -/
theorem decode?_encode_of_mem_catalog {α : Type} [WireForm α] {name : String}
    (hn : (name,schema α) ∈ catalog) (a : α) (ha : (encode a).length < UInt64.size) :
    decode? (encode a) = some (normalize a) ∧
      (decode? (encode a) = some a ↔ Binary64.negZero ∉ (schema α).plainDoubles (toRecord a)) ∧
      ∀ s ∈ schema α :: (schema α).inner, s.declaresPlainDouble → s = schema ScalarValue := by
  have h := decode?_encode_of_sound (sound_of_mem_catalog _ hn) ha
  refine ⟨h,?_,scalar_of_declaresPlainDouble _ hn⟩
  rw [h,Option.some_inj,normalize_eq_self_iff]

/-- A resource of a kind nobody knows, with an amount of minus zero on a disk whose mode is
the first of its enumeration. -/
def oddResource : Resource :=
  { name := "cpus"
    kind := -7
    scalar := some ⟨.negZero⟩
    disk := some { volume := some { containerPath := "/data", mode := Volume.readWrite } } }

theorem decode?_encode_oddResource :
    ("Resource",schema Resource) ∈ catalog ∧ (encode oddResource).length < UInt64.size ∧
      decode? (encode oddResource) = some { oddResource with scalar := some ⟨.zero⟩ } := by
  have hn : ("Resource",schema Resource) ∈ catalog := by simp [catalog]
  have ha : (encode oddResource).length < UInt64.size := by decide +kernel
  exact ⟨hn,ha,(decode?_encode_of_mem_catalog hn oddResource ha).1⟩

end ClusterFramework
