import ClusterFramework.Task

/-! The offers a framework holds, and which of them a task takes. -/
namespace ClusterFramework

structure HeldOffer where
  offer : Offer
  cpu : Binary64
  mem : Binary64
  disk : Option DiskInfo
  deriving DecidableEq,Repr

namespace HeldOffer

def ofOffer (o : Offer) : HeldOffer :=
  { offer := o
    cpu := scalarTotal "cpus" o.resources
    mem := scalarTotal "mem" o.resources
    disk := diskOf "disk" o.resources }

def id (h : HeldOffer) : Option OfferId := h.offer.id

/-- Strictly more is left of what the task demands than it demands. A task that demands
neither processors nor memory fits nowhere. -/
def fits (h : HeldOffer) (t : Task) : Bool :=
  (t.demands "cpus" || t.demands "mem") &&
    (!t.demands "cpus" || Binary64.lt (t.demand "cpus") h.cpu) &&
    (!t.demands "mem" || Binary64.lt (t.demand "mem") h.mem)

/-- What the task leaves of the offer. A disk the task names takes the place of the offered
one. -/
def debit (h : HeldOffer) (t : Task) : HeldOffer :=
  { h with
    cpu := h.cpu.sub (t.demand "cpus")
    mem := h.mem.sub (t.demand "mem")
    disk := (diskOf "disk" t.resources).or h.disk }

@[simp] theorem debit_offer (h : HeldOffer) (t : Task) : (h.debit t).offer = h.offer := rfl

@[simp] theorem ofOffer_offer (o : Offer) : (ofOffer o).offer = o := rfl

end HeldOffer

abbrev OfferPool := List HeldOffer

namespace OfferPool

def ofBatch (os : List Offer) : OfferPool := os.map HeldOffer.ofOffer

/-- The first held offer that fits, debited, and the pool without it. -/
def assign? : OfferPool → Task → Option (HeldOffer × OfferPool)
  | [], _ => none
  | h :: pool, t =>
    if h.fits t then some (h.debit t,pool)
    else (assign? pool t).map fun (taken,rest) => (taken,h :: rest)

/-- The pool without the offers of an id, and whether there were any. -/
def rescind (pool : OfferPool) (id : OfferId) : Bool × OfferPool :=
  let kept := pool.filter fun h => h.id ≠ some id
  (kept.length ≠ pool.length,kept)

def ids (pool : OfferPool) : List OfferId := pool.filterMap HeldOffer.id

theorem assign?_eq_none_iff (pool : OfferPool) (t : Task) :
    pool.assign? t = none ↔ ∀ h ∈ pool, h.fits t = false := by
  induction pool with
  | nil => simp [assign?]
  | cons h pool ih => by_cases hf : h.fits t <;> simp [assign?,hf,ih]

theorem assign?_split {pool rest : OfferPool} {t : Task} {taken : HeldOffer}
    (h : pool.assign? t = some (taken,rest)) :
    ∃ front held back, pool = front ++ held :: back ∧ rest = front ++ back ∧
      taken = held.debit t ∧ held.fits t ∧ ∀ x ∈ front, x.fits t = false := by
  induction pool generalizing rest with
  | nil => simp [assign?] at h
  | cons x pool ih =>
    simp only [assign?] at h
    split at h
    · rename_i hf
      cases h
      exact ⟨[],x,pool,rfl,rfl,rfl,hf,by simp⟩
    · rename_i hf
      simp only [Option.map_eq_some_iff] at h
      obtain ⟨⟨taken',rest'⟩,hr,he⟩ := h
      cases he
      obtain ⟨front,held,back,h1,h2,h3,h4,h5⟩ := ih hr
      refine ⟨x :: front,held,back,by simp [h1],by simp [h2],h3,h4,?_⟩
      intro y hy
      rcases List.mem_cons.mp hy with hy | hy
      · exact hy ▸ by simpa using hf
      · exact h5 y hy

end OfferPool
end ClusterFramework
