import ClusterFramework.Proofs.Wire.Scalars
import ClusterFramework.Wire.Form

/-! Reading back what was written. The tokens of a record are absorbed field by field: since
numbers ascend, a token reaches the field it was written for and passes all the others. -/
namespace ClusterFramework
namespace Wire

theorem length_le_of_mem_flatMap {t : Token} {ts : List Token} (h : t ∈ ts) :
    t.encode.length ≤ (ts.flatMap Token.encode).length := by
  obtain ⟨front,back,rfl⟩ := List.append_of_mem h
  simp only [List.flatMap_append,List.flatMap_cons,List.length_append]
  omega

theorem Token.length_payload_le (t : Token) {b : Octets} (h : t.payload = .delimited b) :
    b.length ≤ t.encode.length := by
  simp only [Token.encode,h,Payload.encode,List.length_append]
  omega

section

variable {α β τ : Type}

theorem foldlM_fst {f : α → τ → Option α} {g : α × β → τ → Option (α × β)} {ts : List τ} (b : β)
    (h : ∀ t ∈ ts, ∀ a, g (a,b) t = (f a t).map (·,b)) (a : α) :
    ts.foldlM g (a,b) = (ts.foldlM f a).map (·,b) := by
  induction ts generalizing a with
  | nil => rfl
  | cons t ts ih =>
    have ht := h t List.mem_cons_self a
    have hts : ∀ u ∈ ts, ∀ a, g (a,b) u = (f a u).map (·,b) :=
      fun u hu => h u (List.mem_cons_of_mem _ hu)
    rw [List.foldlM_cons,List.foldlM_cons,ht]
    cases f a t with
    | none => rfl
    | some a' => exact ih hts a'

theorem foldlM_snd {f : β → τ → Option β} {g : α × β → τ → Option (α × β)} {ts : List τ} (a : α)
    (h : ∀ t ∈ ts, ∀ b, g (a,b) t = (f b t).map (a,·)) (b : β) :
    ts.foldlM g (a,b) = (ts.foldlM f b).map (a,·) := by
  induction ts generalizing b with
  | nil => rfl
  | cons t ts ih =>
    have ht := h t List.mem_cons_self b
    have hts : ∀ u ∈ ts, ∀ b, g (a,b) u = (f b u).map (a,·) :=
      fun u hu => h u (List.mem_cons_of_mem _ hu)
    rw [List.foldlM_cons,List.foldlM_cons,ht]
    cases f b t with
    | none => rfl
    | some b' => exact ih hts b'

/-- The first tokens settle one side, the others leave it alone. -/
theorem foldlM_append_snd {f : β → τ → Option β} {g : α × β → τ → Option (α × β)}
    {own others : List τ} {a₀ a : α} {b₀ b : β} (hown : own.foldlM g (a₀,b₀) = some (a,b₀))
    (h : ∀ t ∈ others, ∀ b, g (a,b) t = (f b t).map (a,·)) (hb : others.foldlM f b₀ = some b) :
    (own ++ others).foldlM g (a₀,b₀) = some (a,b) := by
  rw [List.foldlM_append,hown,Option.bind_eq_bind,Option.bind_some,foldlM_snd a h,hb]
  rfl

end

namespace Schema

/-- Only varints are packed, here and in every body. -/
def Packable : Schema → Prop
  | done => True
  | field _ _ cardinality type rest => (cardinality = .packed → type.isVarint) ∧ Packable rest
  | child _ _ body rest => Packable body ∧ Packable rest
  | children _ _ body rest => Packable body ∧ Packable rest

instance decidablePackable : (s : Schema) → Decidable s.Packable
  | done => inferInstanceAs (Decidable True)
  | field _ _ cardinality type rest =>
    have := decidablePackable rest
    inferInstanceAs (Decidable ((cardinality = .packed → type.isVarint) ∧ Packable rest))
  | child _ _ body rest =>
    have := decidablePackable body
    have := decidablePackable rest
    inferInstanceAs (Decidable (Packable body ∧ Packable rest))
  | children _ _ body rest =>
    have := decidablePackable body
    have := decidablePackable rest
    inferInstanceAs (Decidable (Packable body ∧ Packable rest))

/-- The record with every plain double of minus zero turned into zero, at every depth. -/
def normalize : (s : Schema) → s.Record → s.Record
  | done, r => r
  | field _ _ cardinality type rest, (x,r) => (cardinality.normalize type x,rest.normalize r)
  | child _ _ body rest, (m,r) => (m.map body.normalize,rest.normalize r)
  | children _ _ body rest, (ms,r) => (ms.map body.normalize,rest.normalize r)

theorem depth_pos (s : Schema) : 0 < s.depth := by
  induction s with
  | done => exact Nat.one_pos
  | field _ _ _ _ _ ih => exact ih
  | child _ _ _ _ _ ih => exact Nat.lt_of_lt_of_le ih (Nat.le_max_right _ _)
  | children _ _ _ _ _ ih => exact Nat.lt_of_lt_of_le ih (Nat.le_max_right _ _)

theorem Ascending.lt_of_mem {above n : Nat} {s : Schema} (h : Ascending above s)
    (hn : n ∈ s.numbers) : above < n ∧ n < 0x20000000 := by
  induction s generalizing above with
  | done => cases hn
  | field number _ _ _ rest ih =>
    obtain ⟨ha,hl,hr⟩ := h
    rcases List.mem_cons.mp hn with rfl | hn
    · exact ⟨ha,hl⟩
    · exact ⟨Nat.lt_trans ha (ih hr hn).1,(ih hr hn).2⟩
  | child number _ body rest _ ih | children number _ body rest _ ih =>
    obtain ⟨ha,hl,_,hr⟩ := h
    rcases List.mem_cons.mp hn with rfl | hn
    · exact ⟨ha,hl⟩
    · exact ⟨Nat.lt_trans ha (ih hr hn).1,(ih hr hn).2⟩

theorem number_mem_of_mem_tokens {s : Schema} {r : s.Record} {t : Token} (h : t ∈ s.tokens r) :
    t.number ∈ s.numbers := by
  induction s with
  | done => cases h
  | field number _ cardinality type rest ih =>
    simp only [tokens,Cardinality.tokens_eq,List.mem_append,List.mem_map] at h
    rcases h with ⟨p,_,rfl⟩ | h
    · exact List.mem_cons_self
    · exact List.mem_cons_of_mem _ (ih h)
  | child number _ body rest _ ih | children number _ body rest _ ih =>
    simp only [tokens,List.mem_append,List.mem_map] at h
    rcases h with ⟨m,_,rfl⟩ | h
    · exact List.mem_cons_self
    · exact List.mem_cons_of_mem _ (ih h)

theorem isValue_of_mem_tokens {s : Schema} {r : s.Record} {t : Token} (h : t ∈ s.tokens r) :
    t.payload.isValue := by
  induction s with
  | done => cases h
  | field number _ cardinality type rest ih =>
    simp only [tokens,Cardinality.tokens_eq,List.mem_append,List.mem_map] at h
    rcases h with ⟨p,hp,rfl⟩ | h
    · exact Cardinality.isValue_of_mem_payloads hp
    · exact ih h
  | child number _ body rest _ ih | children number _ body rest _ ih =>
    simp only [tokens,List.mem_append,List.mem_map] at h
    rcases h with ⟨m,_,rfl⟩ | h
    · rfl
    · exact ih h

theorem Ascending.fits {above : Nat} {s : Schema} (h : Ascending above s) {r : s.Record}
    (hr : (s.encode r).length < UInt64.size) {t : Token} (ht : t ∈ s.tokens r) : t.Fits where
  number_pos := Nat.lt_of_le_of_lt (Nat.zero_le _) (h.lt_of_mem (number_mem_of_mem_tokens ht)).1
  number_lt := (h.lt_of_mem (number_mem_of_mem_tokens ht)).2
  length_lt b hb := by
    have h1 := t.length_payload_le hb
    have h2 := length_le_of_mem_flatMap ht
    exact Nat.lt_of_le_of_lt (Nat.le_trans h1 h2) hr

theorem Ascending.fits_body {above : Nat} {s : Schema} (h : Ascending above s) {r : s.Record}
    (hr : (s.encode r).length < UInt64.size) {t : Token} (ht : t ∈ s.tokens r) {b : Octets}
    (hb : t.payload = .delimited b) : b.length < UInt64.size :=
  (h.fits hr ht).length_lt b hb

/-- A message's octets are the tokens of its record, whatever the depth they are read at. -/
theorem fields?_encode {above limit : Nat} {s : Schema} (h : Ascending above s) (hl : 0 < limit)
    {r : s.Record} (hr : (s.encode r).length < UInt64.size) :
    fields? limit (s.encode r) = some (s.tokens r) :=
  fields?_flatMap_encode hl _ (fun _ ht => h.fits hr ht) fun _ ht => isValue_of_mem_tokens ht

/-- A message read where it may still go `limit` messages deep. -/
def decodeAt? (s : Schema) (limit : Nat) (b : Octets) : Option s.Record :=
  (fields? limit b).bind fun ts => ts.foldlM (s.absorb limit) s.empty

section

variable {number limit : Nat} {name : String} {body rest : Schema}

theorem absorb_field_self {l : Cardinality} {type : Scalar} (x : l.Of type.Carrier)
    (r : rest.Record) (p : Payload) :
    (field number name l type rest).absorb limit (x,r) ⟨number,p⟩ =
      (l.absorb type x p).map (·,r) := by
  simp [absorb]

theorem absorb_child_self (r : rest.Record) (b : Octets) :
    (child number name body rest).absorb (limit+1) (none,r) ⟨number,.delimited b⟩ =
      (body.decodeAt? limit b).map (some ·,r) := by
  simp [absorb,decodeAt?]

theorem absorb_children_self (ms : List body.Record) (r : rest.Record) (b : Octets) :
    (children number name body rest).absorb (limit+1) (ms,r) ⟨number,.delimited b⟩ =
      (body.decodeAt? limit b).map (ms ++ [·],r) := by
  simp [absorb,decodeAt?]

theorem absorb_field_of_ne {l : Cardinality} {type : Scalar} {t : Token} (h : t.number ≠ number)
    (x : l.Of type.Carrier) (r : rest.Record) :
    (field number name l type rest).absorb limit (x,r) t = (rest.absorb limit r t).map (x,·) := by
  simp [absorb,h]

theorem absorb_child_of_ne {t : Token} (h : t.number ≠ number) (m : Option body.Record)
    (r : rest.Record) :
    (child number name body rest).absorb limit (m,r) t = (rest.absorb limit r t).map (m,·) := by
  simp [absorb,h]

theorem absorb_children_of_ne {t : Token} (h : t.number ≠ number) (ms : List body.Record)
    (r : rest.Record) :
    (children number name body rest).absorb limit (ms,r) t = (rest.absorb limit r t).map (ms,·) := by
  simp [absorb,h]

theorem foldlM_absorb_children {ms : List body.Record} {b : body.Record → Octets}
    {n : body.Record → body.Record} (h : ∀ m ∈ ms, body.decodeAt? limit (b m) = some (n m))
    (acc : List body.Record) (r : rest.Record) :
    (ms.map fun m => Token.mk number (.delimited (b m))).foldlM
      ((children number name body rest).absorb (limit+1)) (acc,r) = some (acc ++ ms.map n,r) := by
  induction ms generalizing acc with
  | nil => simp
  | cons m ms ih =>
    have hm := h m List.mem_cons_self
    have hms : ∀ m ∈ ms, body.decodeAt? limit (b m) = some (n m) :=
      fun m hm => h m (List.mem_cons_of_mem _ hm)
    rw [List.map_cons,List.foldlM_cons,absorb_children_self,hm]
    simpa using ih hms (acc ++ [n m])

end

theorem Ascending.ne_of_mem_tokens {above : Nat} {s : Schema} (h : Ascending above s)
    {r : s.Record} : ∀ t ∈ s.tokens r, t.number ≠ above := fun _ ht =>
  Nat.ne_of_gt (h.lt_of_mem (number_mem_of_mem_tokens ht)).1

theorem decodeAt?_of_foldlM {above limit : Nat} {s : Schema} (ha : Ascending above s)
    (hd : s.depth ≤ limit) {r r' : s.Record} (hr : (s.encode r).length < UInt64.size)
    (h : (s.tokens r).foldlM (s.absorb limit) s.empty = some r') :
    s.decodeAt? limit (s.encode r) = some r' := by
  rw [decodeAt?,fields?_encode ha (Nat.lt_of_lt_of_le s.depth_pos hd) hr,Option.bind_some,h]

/-- The induction is on the schema. A field's own tokens fill it while the later fields are
still empty; the tokens of the later fields then pass it by. -/
theorem foldlM_absorb_tokens {above limit : Nat} {s : Schema} (ha : Ascending above s)
    (hp : s.Packable) (hd : s.depth ≤ limit) {r : s.Record}
    (hr : (s.encode r).length < UInt64.size) :
    (s.tokens r).foldlM (s.absorb limit) s.empty = some (s.normalize r) := by
  induction s generalizing above limit with
  | done => rfl
  | field number name l type rest ih =>
    obtain ⟨x,r⟩ := r
    have hlen : (rest.encode r).length < UInt64.size := by
      simp only [encode,tokens,List.flatMap_append,List.length_append] at hr ⊢
      omega
    have hown : (l.tokens number type x).foldlM ((field number name l type rest).absorb limit)
        (l.empty type,rest.empty) = some (l.normalize type x,rest.empty) := by
      rw [Cardinality.tokens_eq,List.foldlM_map,
        foldlM_fst rest.empty (fun p _ y => absorb_field_self y rest.empty p),
        Cardinality.foldlM_absorb_payloads hp.1]
      rfl
    exact foldlM_append_snd hown
      (fun t ht => absorb_field_of_ne (ha.2.2.ne_of_mem_tokens t ht) _) (ih ha.2.2 hp.2 hd hlen)
  | child number name body rest ihb ih =>
    obtain ⟨m,r⟩ := r
    have hb : 0 < body.depth := body.depth_pos
    simp only [depth] at hd
    obtain ⟨limit,rfl⟩ : ∃ n, limit = n+1 := Nat.exists_eq_succ_of_ne_zero (by omega)
    have hlen : (rest.encode r).length < UInt64.size := by
      simp only [encode,tokens,List.flatMap_append,List.length_append] at hr ⊢
      omega
    have hown : (m.toList.map fun m => Token.mk number (.delimited (body.encode m))).foldlM
        ((child number name body rest).absorb (limit+1)) (none,rest.empty) =
          some (m.map body.normalize,rest.empty) := by
      cases m with
      | none => rfl
      | some m =>
        have hm : (body.encode m).length < UInt64.size :=
          ha.fits_body hr (List.mem_append_left _ (List.mem_map_of_mem (List.mem_singleton_self m)))
            rfl
        have hread : body.decodeAt? limit (body.encode m) = some (body.normalize m) :=
          decodeAt?_of_foldlM ha.2.2.1 (by omega) hm (ihb ha.2.2.1 hp.1 (by omega) hm)
        simp [absorb_child_self,hread]
    exact foldlM_append_snd hown
      (fun t ht => absorb_child_of_ne (ha.2.2.2.ne_of_mem_tokens t ht) _)
      (ih ha.2.2.2 hp.2 (by omega) hlen)
  | children number name body rest ihb ih =>
    obtain ⟨ms,r⟩ := r
    have hb : 0 < body.depth := body.depth_pos
    simp only [depth] at hd
    obtain ⟨limit,rfl⟩ : ∃ n, limit = n+1 := Nat.exists_eq_succ_of_ne_zero (by omega)
    have hlen : (rest.encode r).length < UInt64.size := by
      simp only [encode,tokens,List.flatMap_append,List.length_append] at hr ⊢
      omega
    have hread : ∀ m ∈ ms, body.decodeAt? limit (body.encode m) = some (body.normalize m) := by
      intro m hm
      have hm' : (body.encode m).length < UInt64.size :=
        ha.fits_body hr (List.mem_append_left _ (List.mem_map_of_mem hm)) rfl
      exact decodeAt?_of_foldlM ha.2.2.1 (by omega) hm' (ihb ha.2.2.1 hp.1 (by omega) hm')
    exact foldlM_append_snd (foldlM_absorb_children hread [] rest.empty)
      (fun t ht => absorb_children_of_ne (ha.2.2.2.ne_of_mem_tokens t ht) _)
      (ih ha.2.2.2 hp.2 (by omega) hlen)

/-- What a schema must keep to for its records to be read back. -/
def Sound (s : Schema) : Prop := Ascending 0 s ∧ s.Packable ∧ s.depth ≤ nestingLimit

instance (s : Schema) : Decidable s.Sound :=
  inferInstanceAs (Decidable (Ascending 0 s ∧ s.Packable ∧ s.depth ≤ nestingLimit))

theorem decode?_encode_of_sound {s : Schema} (h : s.Sound) {r : s.Record}
    (hr : (s.encode r).length < UInt64.size) : s.decode? (s.encode r) = some (s.normalize r) :=
  decodeAt?_of_foldlM h.1 h.2.2 hr (foldlM_absorb_tokens h.1 h.2.1 h.2.2 hr)

end Schema
end Wire

namespace WireForm

open Wire

variable {α : Type} [WireForm α]

/-- What a value comes back as: a plain double of minus zero in it has lost its sign. -/
def normalize (a : α) : α := ofRecord ((schema α).normalize (toRecord a))

theorem decode?_encode_of_sound (h : (schema α).Sound) {a : α}
    (ha : (encode a).length < UInt64.size) : decode? (encode a) = some (normalize a) := by
  rw [decode?,encode,Schema.decode?_encode_of_sound h ha]
  rfl

end WireForm
end ClusterFramework
