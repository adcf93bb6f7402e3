import ClusterFramework.Text.Utf8

/-! Finite maps. Entries stand in ascending order of their keys, so that a map has one
representation and listing it is listing it in order. Where no type of keys is named, they are
texts. -/
namespace ClusterFramework

/-- Keys have a strict order, in which of any two that differ one comes before the other. -/
class KeyOrder (κ : Type) where
  before : κ → κ → Prop
  decidableBefore (a b : κ) : Decidable (before a b)
  before_irrefl (a : κ) : ¬before a a
  before_trans {a b c : κ} (h : before a b) (h' : before b c) : before a c
  before_of_ne {a b : κ} (h : a ≠ b) (h' : ¬before a b) : before b a

export KeyOrder (before before_irrefl before_trans before_of_ne)

instance {κ : Type} [KeyOrder κ] (a b : κ) : Decidable (before a b) := KeyOrder.decidableBefore a b

/-- Texts by their octets, a proper beginning before its continuations. -/
instance : KeyOrder String where
  before a b := Utf8.encode a < Utf8.encode b
  decidableBefore a b := inferInstanceAs (Decidable (Utf8.encode a < Utf8.encode b))
  before_irrefl _ := List.lt_irrefl _
  before_trans h h' := List.lt_trans h h'
  before_of_ne {a b} h h' := by
    by_cases hb : Utf8.encode b < Utf8.encode a
    · exact hb
    · exact absurd (Utf8.encode_injective
        (List.le_antisymm (List.not_lt.mp hb) (List.not_lt.mp h'))) h

structure Dictionary (α : Type) (κ : Type := String) [KeyOrder κ] where
  entries : List (κ × α)
  ascending : entries.Pairwise fun e f => before e.1 f.1

namespace Dictionary

variable {α β κ : Type}

def find? [DecidableEq κ] (k : κ) : List (κ × α) → Option α
  | [] => none
  | e :: es => if e.1 = k then some e.2 else find? k es

theorem find?_filter_ne [DecidableEq κ] (k k' : κ) (es : List (κ × α)) :
    find? k' (es.filter fun e => decide (e.1 ≠ k)) = if k' = k then none else find? k' es := by
  induction es with
  | nil => simp [find?]
  | cons f es ih =>
    by_cases hf : f.1 = k
    · by_cases h : k' = k
      · simpa [hf,h] using ih
      · have : f.1 ≠ k' := fun e => h (e ▸ hf)
        simpa [hf,h,find?,this,Ne.symm h] using ih
    · by_cases h : k' = k
      · subst h; simpa [hf,find?] using ih
      · simp only [ne_eq,hf,not_false_eq_true,decide_true,List.filter_cons_of_pos,find?,h,if_false]
        split
        · rfl
        · simpa [h] using ih

variable [KeyOrder κ]

theorem ext_entries {d e : Dictionary α κ} (h : d.entries = e.entries) : d = e := by
  cases d; cases e; cases h; rfl

def empty : Dictionary α κ := ⟨[],.nil⟩

instance : Inhabited (Dictionary α κ) := ⟨empty⟩

instance [Repr α] [Repr κ] : Repr (Dictionary α κ) := ⟨fun d n => reprPrec d.entries n⟩

def size (d : Dictionary α κ) : Nat := d.entries.length

def isEmpty (d : Dictionary α κ) : Bool := d.entries.isEmpty

def keys (d : Dictionary α κ) : List κ := d.entries.map Prod.fst

def values (d : Dictionary α κ) : List α := d.entries.map Prod.snd

def filter (d : Dictionary α κ) (p : κ → α → Bool) : Dictionary α κ :=
  ⟨d.entries.filter fun e => p e.1 e.2,d.ascending.sublist List.filter_sublist⟩

def map (d : Dictionary α κ) (f : κ → α → β) : Dictionary β κ :=
  ⟨d.entries.map fun e => (e.1,f e.1 e.2),List.pairwise_map.mpr d.ascending⟩

def any (d : Dictionary α κ) (p : α → Bool) : Bool := d.values.any p

@[simp] theorem size_map (d : Dictionary α κ) (f : κ → α → β) : (d.map f).size = d.size := by
  simp [size,map]

variable [DecidableEq κ]

instance [DecidableEq α] : DecidableEq (Dictionary α κ) := fun d e =>
  if h : d.entries = e.entries then isTrue (by cases d; cases e; cases h; rfl)
  else isFalse fun he => h (he ▸ rfl)

def get? (d : Dictionary α κ) (k : κ) : Option α := find? k d.entries

def contains (d : Dictionary α κ) (k : κ) : Bool := (d.get? k).isSome

def insertEntry (k : κ) (v : α) : List (κ × α) → List (κ × α)
  | [] => [(k,v)]
  | e :: es =>
    if e.1 = k then (k,v) :: es
    else if before k e.1 then (k,v) :: e :: es
    else e :: insertEntry k v es

theorem mem_insertEntry {k : κ} {v : α} {es : List (κ × α)} {e : κ × α}
    (h : e ∈ insertEntry k v es) : e = (k,v) ∨ e ∈ es := by
  induction es with
  | nil => simpa [insertEntry] using h
  | cons f es ih =>
    simp only [insertEntry] at h
    split at h
    · rcases List.mem_cons.mp h with h | h
      · exact .inl h
      · exact .inr (List.mem_cons_of_mem _ h)
    · split at h
      · exact List.mem_cons.mp h
      · rcases List.mem_cons.mp h with h | h
        · exact .inr (h ▸ List.mem_cons_self)
        · exact (ih h).imp_right (List.mem_cons_of_mem _)

theorem ascending_insertEntry {k : κ} {v : α} {es : List (κ × α)}
    (h : es.Pairwise fun e f => before e.1 f.1) :
    (insertEntry k v es).Pairwise fun e f => before e.1 f.1 := by
  induction es with
  | nil => simp [insertEntry]
  | cons f es ih =>
    have hf := List.pairwise_cons.mp h
    simp only [insertEntry]
    split
    · rename_i hk
      exact List.pairwise_cons.mpr ⟨fun e he => hk ▸ hf.1 e he,hf.2⟩
    · rename_i hk
      split
      · rename_i hb
        refine List.pairwise_cons.mpr ⟨fun e he => ?_,h⟩
        rcases List.mem_cons.mp he with he | he
        · exact he ▸ hb
        · exact before_trans hb (hf.1 e he)
      · rename_i hb
        refine List.pairwise_cons.mpr ⟨fun e he => ?_,ih hf.2⟩
        rcases mem_insertEntry he with he | he
        · exact he ▸ before_of_ne (fun h => hk h.symm) hb
        · exact hf.1 e he

def insert (d : Dictionary α κ) (k : κ) (v : α) : Dictionary α κ :=
  ⟨insertEntry k v d.entries,ascending_insertEntry d.ascending⟩

def erase (d : Dictionary α κ) (k : κ) : Dictionary α κ := d.filter fun k' _ => k' ≠ k

/-- Changes the value of a key that is there. -/
def modify (d : Dictionary α κ) (k : κ) (f : α → α) : Dictionary α κ :=
  d.map fun k' v => if k' = k then f v else v

/-- Leaves the value of a key that is there, and tells whether the key was new. -/
def insertIfAbsent (d : Dictionary α κ) (k : κ) (v : α) : Bool × Dictionary α κ :=
  if d.contains k then (false,d) else (true,d.insert k v)

/-- Moves the entries of `es`, one after the other, each to the key that `f` gives. -/
def moveAll (d : Dictionary α κ) (f : κ → κ) (es : List (κ × α)) : Dictionary α κ :=
  es.foldl (fun d e => (d.erase e.1).insert (f e.1) e.2) d

/-- Moves the entries that are there at the start. -/
def rename (d : Dictionary α κ) (f : κ → κ) : Dictionary α κ := d.moveAll f d.entries

/-- Of two entries with one key, the later one stays. -/
def ofList (es : List (κ × α)) : Dictionary α κ := es.foldl (fun d e => d.insert e.1 e.2) empty

@[simp] theorem get?_empty (k : κ) : (empty : Dictionary α κ).get? k = none := rfl

theorem find?_insertEntry (k k' : κ) (v : α) (es : List (κ × α)) :
    find? k' (insertEntry k v es) = if k' = k then some v else find? k' es := by
  induction es with
  | nil => simp [insertEntry,find?,eq_comm]
  | cons f es ih =>
    simp only [insertEntry]
    split
    · rename_i hf
      by_cases h : k' = k
      · simp [find?,h]
      · have : f.1 ≠ k' := fun e => h (e ▸ hf)
        simp [find?,h,this,Ne.symm h]
    · split
      · simp [find?,eq_comm]
      · rename_i hf _
        by_cases h : k' = k
        · subst h; simp [find?,ih,hf]
        · simp [find?,ih,h]

@[simp] theorem get?_insert (d : Dictionary α κ) (k k' : κ) (v : α) :
    (d.insert k v).get? k' = if k' = k then some v else d.get? k' :=
  find?_insertEntry k k' v d.entries

@[simp] theorem get?_erase (d : Dictionary α κ) (k k' : κ) :
    (d.erase k).get? k' = if k' = k then none else d.get? k' :=
  find?_filter_ne k k' d.entries

@[simp] theorem get?_map (d : Dictionary α κ) (f : κ → α → β) (k : κ) :
    (d.map f).get? k = (d.get? k).map (f k) := by
  obtain ⟨es,h⟩ := d
  simp only [get?,map]
  clear h
  induction es with
  | nil => rfl
  | cons e es ih =>
    simp only [List.map_cons,find?,ih]
    split
    · rename_i he; simp [he]
    · rfl

@[simp] theorem get?_modify (d : Dictionary α κ) (k k' : κ) (f : α → α) :
    (d.modify k f).get? k' = if k' = k then (d.get? k').map f else d.get? k' := by
  simp only [modify,get?_map]
  split <;> simp

@[simp] theorem size_modify (d : Dictionary α κ) (k : κ) (f : α → α) :
    (d.modify k f).size = d.size := size_map d _

end Dictionary
end ClusterFramework
