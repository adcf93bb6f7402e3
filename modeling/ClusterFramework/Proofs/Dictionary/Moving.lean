import ClusterFramework.Proofs.Dictionary
import Mathlib.SetTheory.Cardinal.Order

/-! The entries of a map are moved to new keys while the map is walked. As long as no key is hit
twice, the order of the walk makes no difference: at every moment the map holds the entries that
are still to be moved and, under their new keys, those that have been. -/
namespace ClusterFramework

namespace KeyOrder

variable {κ : Type}

@[reducible] def ofLinearOrder [LinearOrder κ] : KeyOrder κ where
  before a b := a < b
  decidableBefore a b := inferInstanceAs (Decidable (a < b))
  before_irrefl := lt_irrefl
  before_trans := lt_trans
  before_of_ne h h' := lt_of_le_of_ne (not_lt.mp h') h.symm

instance : KeyOrder Int := ofLinearOrder

/-- That keys have an order excludes no type of keys. -/
theorem nonempty (κ : Type) : Nonempty (KeyOrder κ) := by
  obtain ⟨_,-⟩ := exists_wellFoundedLT (α := κ)
  exact ⟨ofLinearOrder⟩

end KeyOrder

namespace Dictionary

variable {α κ : Type} {f : κ → κ} {e : κ × α} {es rest : List (κ × α)}

def moved (f : κ → κ) (e : κ × α) : κ × α := (f e.1,e.2)

/-- No key is hit twice: those of what is to be moved and of what stays, and the new ones. -/
def Apart (f : κ → κ) (es rest : List (κ × α)) : Prop :=
  ((es ++ rest ++ es.map (moved f)).map Prod.fst).Nodup

theorem Apart.next (h : Apart f (e :: es) rest) : Apart f es (moved f e :: rest) := by
  have hperm : (e :: es ++ rest ++ (e :: es).map (moved f)).Perm
      (e :: (es ++ moved f e :: rest ++ es.map (moved f))) := by
    rw [List.map_cons,List.cons_append,List.cons_append]
    exact (List.perm_middle.trans (List.perm_middle.append_right _).symm).cons e
  exact ((hperm.map Prod.fst).nodup_iff.mp h).of_cons

theorem Apart.new_not_mem (h : Apart f (e :: es) rest) : f e.1 ∉ (es ++ rest).map Prod.fst := by
  intro hmem
  rw [Apart,List.map_append] at h
  exact List.disjoint_of_nodup_append h (List.mem_cons_of_mem e.1 hmem) List.mem_cons_self

variable [KeyOrder κ] {d : Dictionary α κ}

theorem apart_of_perm (hinj : ∀ k ∈ d.keys, ∀ k' ∈ d.keys, f k = f k' → k = k')
    (hnew : ∀ k ∈ d.keys, f k ∉ d.keys) (hes : es.Perm d.entries) : Apart f es [] := by
  have hkeys : (es.map Prod.fst).Perm d.keys := hes.map Prod.fst
  have hmoved : (es.map (moved f)).map Prod.fst = (es.map Prod.fst).map f := by
    rw [List.map_map,List.map_map]
    rfl
  rw [Apart,List.append_nil,List.map_append,hmoved,List.nodup_append]
  refine ⟨hkeys.nodup_iff.mpr d.nodup_keys,?_,?_⟩
  · refine (hkeys.nodup_iff.mpr d.nodup_keys).map_on fun k hk k' hk' => ?_
    exact hinj k (hkeys.mem_iff.mp hk) k' (hkeys.mem_iff.mp hk')
  · rintro k hk k' hk' rfl
    obtain ⟨old,hold,rfl⟩ := List.mem_map.mp hk'
    exact hnew old (hkeys.mem_iff.mp hold) (hkeys.mem_iff.mp hk)

/-- A visit of the walk: an entry, the value found at its key when it is taken out, and the value
replaced at its new key when it is put there. -/
structure Visit (α κ : Type) where
  entry : κ × α
  found : Option α
  replaced : Option α
  deriving DecidableEq,Repr

variable [DecidableEq κ]

def visits (f : κ → κ) : Dictionary α κ → List (κ × α) → List (Visit α κ)
  | _, [] => []
  | d, e :: es =>
    ⟨e,d.get? e.1,(d.erase e.1).get? (f e.1)⟩ :: visits f ((d.erase e.1).insert (f e.1) e.2) es

theorem new_not_mem_keys (hd : d.entries.Perm (e :: es ++ rest)) (h : Apart f (e :: es) rest) :
    f e.1 ∉ (d.erase e.1).keys := fun hmem =>
  h.new_not_mem (((perm_erase hd).map Prod.fst).mem_iff.mp hmem)

theorem perm_move (hd : d.entries.Perm (e :: es ++ rest)) (h : Apart f (e :: es) rest) :
    ((d.erase e.1).insert (f e.1) e.2).entries.Perm (es ++ moved f e :: rest) :=
  (perm_insert (new_not_mem_keys hd h) e.2).trans
    (((perm_erase hd).cons (moved f e)).trans List.perm_middle.symm)

theorem perm_moveAll (hd : d.entries.Perm (es ++ rest)) (h : Apart f es rest) :
    (d.moveAll f es).entries.Perm (es.map (moved f) ++ rest) := by
  induction es generalizing d rest with
  | nil => exact hd
  | cons e es ih => exact (ih (perm_move hd h) h.next).trans List.perm_middle

theorem visits_eq (hd : d.entries.Perm (es ++ rest)) (h : Apart f es rest) :
    visits f d es = es.map fun e => ⟨e,some e.2,none⟩ := by
  induction es generalizing d rest with
  | nil => rfl
  | cons e es ih =>
    have hfound : d.get? e.1 = some e.2 :=
      (d.mem_entries_iff e.1 e.2).mp (hd.mem_iff.mpr List.mem_cons_self)
    have hfree : (d.erase e.1).get? (f e.1) = none := by
      rw [Option.eq_none_iff_forall_ne_some]
      exact fun v hv => new_not_mem_keys hd h ((mem_keys_iff ..).mpr ⟨v,hv⟩)
    rw [visits,hfound,hfree,ih (perm_move hd h) h.next]
    rfl

theorem perm_moveAll_of_perm (hinj : ∀ k ∈ d.keys, ∀ k' ∈ d.keys, f k = f k' → k = k')
    (hnew : ∀ k ∈ d.keys, f k ∉ d.keys) (hes : es.Perm d.entries) :
    (d.moveAll f es).entries.Perm (d.entries.map (moved f)) := by
  have hstart : d.entries.Perm (es ++ []) := by simpa using hes.symm
  have hmoves := perm_moveAll hstart (apart_of_perm hinj hnew hes)
  rw [List.append_nil] at hmoves
  exact hmoves.trans (hes.map (moved f))

/-- A walk over the entries that a map holds at its start, in whatever order, moves each of them
once, though the map changes under it: an entry is still there when its turn comes, nothing that
was moved is visited, and nothing is lost at a new key. All orders end in one map, that of the
same values under the new keys. -/
theorem moveAll_of_snapshot (d : Dictionary α κ) (f : κ → κ)
    (hinj : ∀ k ∈ d.keys, ∀ k' ∈ d.keys, f k = f k' → k = k')
    (hnew : ∀ k ∈ d.keys, f k ∉ d.keys) (es : List (κ × α)) (hes : es.Perm d.entries) :
    visits f d es = es.map (fun e => ⟨e,some e.2,none⟩) ∧
      (es.map Prod.fst).Nodup ∧ (∀ k v, (k,v) ∈ es ↔ d.get? k = some v) ∧
      (∀ k ∈ d.keys, ∀ v, (f k,v) ∉ es) ∧
      (d.moveAll f es).entries.Perm (d.entries.map fun e => (f e.1,e.2)) ∧
      (∀ k v, (d.moveAll f es).get? k = some v ↔ ∃ old, d.get? old = some v ∧ f old = k) ∧
      (d.moveAll f es).size = d.size ∧ d.moveAll f es = d.rename f := by
  have hentries := perm_moveAll_of_perm hinj hnew hes
  refine ⟨?_,(hes.map Prod.fst).nodup_iff.mpr d.nodup_keys,fun k v => ?_,fun k hk v hmem => ?_,
    hentries,fun k v => ?_,?_,?_⟩
  · have hstart : d.entries.Perm (es ++ []) := by simpa using hes.symm
    exact visits_eq hstart (apart_of_perm hinj hnew hes)
  · rw [hes.mem_iff,mem_entries_iff]
  · exact hnew k hk (List.mem_map_of_mem (hes.mem_iff.mp hmem))
  · rw [← mem_entries_iff,hentries.mem_iff]
    simp [moved,mem_entries_iff,and_comm]
  · rw [size,hentries.length_eq,List.length_map,size]
  · exact eq_of_perm (hentries.trans (perm_moveAll_of_perm hinj hnew (.refl _)).symm)

theorem moveAll_numbers :
    let d : Dictionary Int Int := ofList [(0,0),(1,10),(2,20),(3,30),(4,40)]
    let es : List (Int × Int) := [(3,30),(0,0),(4,40),(2,20),(1,10)]
    (∀ k ∈ d.keys, ∀ k' ∈ d.keys, k+100 = k'+100 → k = k') ∧ (∀ k ∈ d.keys, k+100 ∉ d.keys) ∧
      es.Perm d.entries ∧ visits (· + 100) d es = es.map (fun e => ⟨e,some e.2,none⟩) ∧
      (d.moveAll (· + 100) es).entries.Perm [(100,0),(101,10),(102,20),(103,30),(104,40)] ∧
      (d.moveAll (· + 100) es).size = 5 := by
  intro d es
  have hinj : ∀ k ∈ d.keys, ∀ k' ∈ d.keys, k+100 = k'+100 → k = k' := by decide +kernel
  have hnew : ∀ k ∈ d.keys, k+100 ∉ d.keys := by decide +kernel
  have hes : es.Perm d.entries := by decide +kernel
  obtain ⟨hvisits,_,_,_,hentries,_,hsize,_⟩ := d.moveAll_of_snapshot (· + 100) hinj hnew es hes
  have hmoved : (d.entries.map fun e => (e.1+100,e.2)) =
      [(100,0),(101,10),(102,20),(103,30),(104,40)] := by
    decide +kernel
  have hfive : d.size = 5 := by decide +kernel
  exact ⟨hinj,hnew,hes,hvisits,hmoved ▸ hentries,hsize.trans hfive⟩

end Dictionary
end ClusterFramework
