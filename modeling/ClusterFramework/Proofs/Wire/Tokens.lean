import ClusterFramework.Wire.Token

/-! Tokens are read back as they were written, whatever octets follow them, and a run of
tokens without groups is its own list of fields. -/
namespace ClusterFramework
namespace Wire

theorem readPayload?_encode (p : Payload) (rest : Octets)
    (h : ∀ b, p = .delimited b → b.length < UInt64.size) :
    readPayload? p.code (p.encode ++ rest) = some (p,rest) := by
  cases p with
  | varint w => simp [Payload.code,Payload.encode,readPayload?]
  | fixed64 w =>
    have hl : (littleEndian 8 w.toNat).length = 8 := littleEndian_length _ _
    have ht := take?_append (littleEndian 8 w.toNat) rest
    have hw : ofLittleEndian (littleEndian 8 w.toNat) = w.toNat :=
      ofLittleEndian_littleEndian _ _ w.toNat_lt
    rw [hl] at ht
    simp [Payload.code,Payload.encode,readPayload?,ht,hw]
  | delimited b =>
    have hb : (UInt64.ofNat b.length).toNat = b.length := Nat.mod_eq_of_lt (h b rfl)
    simp [Payload.code,Payload.encode,readPayload?,hb]
  | groupStart => rfl
  | groupEnd => rfl
  | fixed32 w =>
    have hl : (littleEndian 4 w.toNat).length = 4 := littleEndian_length _ _
    have ht := take?_append (littleEndian 4 w.toNat) rest
    have hw : ofLittleEndian (littleEndian 4 w.toNat) = w.toNat :=
      ofLittleEndian_littleEndian _ _ w.toNat_lt
    rw [hl] at ht
    simp [Payload.code,Payload.encode,readPayload?,ht,hw]

theorem Payload.code_lt (p : Payload) : p.code < 8 := by cases p <;> simp [code]

theorem readToken?_encode (t : Token) (h : t.Fits) (rest : Octets) :
    readToken? (t.encode ++ rest) = some (t,rest) := by
  have hp := h.number_pos
  have hn := h.number_lt
  have hc := t.payload.code_lt
  have hk : (UInt64.ofNat (8*t.number+t.payload.code)).toNat = 8*t.number+t.payload.code := by
    simp only [UInt64.toNat_ofNat']
    omega
  have hd : (8*t.number+t.payload.code)/8 = t.number := by omega
  have hm : (8*t.number+t.payload.code)%8 = t.payload.code := by omega
  have hs : 8*t.number+t.payload.code < UInt32.size ∧ 8 ≤ 8*t.number+t.payload.code :=
    ⟨by simp only [UInt32.size]; omega,by omega⟩
  simp only [readToken?,Token.encode,List.append_assoc,readVarint?_varint,Option.bind_some,hk,hd,
    hm]
  rw [if_pos hs,readPayload?_encode _ _ h.length_lt]
  rfl

theorem varint_ne_nil (w : UInt64) : varint w ≠ [] := by
  unfold varint groups
  split <;> simp

@[simp] theorem tokens?_nil : tokens? [] = some [] := by
  rw [tokens?]
  simp

theorem tokens?_of_readToken? {b rest : Octets} {t : Token}
    (h : readToken? b = some (t,rest)) : tokens? b = (tokens? rest).map (t :: ·) := by
  have hb : b ≠ [] := by
    rintro rfl
    exact absurd (readToken?_shorter h) (Nat.not_lt_zero _)
  rw [tokens?,if_neg hb]
  split
  · rename_i hn
    rw [h] at hn
    cases hn
  · rename_i t' rest' hr
    rw [h] at hr
    cases hr
    rfl

/-- What follows a token is read as if the token were not there. -/
theorem tokens?_encode_append (t : Token) (h : t.Fits) (b : Octets) :
    tokens? (t.encode ++ b) = (tokens? b).map (t :: ·) :=
  tokens?_of_readToken? (readToken?_encode t h b)

theorem tokens?_flatMap_encode_append (ts : List Token) (h : ∀ t ∈ ts, t.Fits) (b : Octets) :
    tokens? (ts.flatMap Token.encode ++ b) = (tokens? b).map (ts ++ ·) := by
  induction ts with
  | nil => simp
  | cons t ts ih =>
    have ht := h t List.mem_cons_self
    have hts : ∀ u ∈ ts, u.Fits := fun u hu => h u (List.mem_cons_of_mem _ hu)
    rw [List.flatMap_cons,List.append_assoc,tokens?_encode_append t ht,ih hts,Option.map_map]
    rfl

theorem tokens?_flatMap_encode (ts : List Token) (h : ∀ t ∈ ts, t.Fits) :
    tokens? (ts.flatMap Token.encode) = some ts := by
  simpa using tokens?_flatMap_encode_append ts h []

/-- A payload that neither opens nor closes a group. -/
def Payload.isValue : Payload → Bool
  | .groupStart | .groupEnd => false
  | _ => true

theorem ungrouped?_of_isValue {limit : Nat} (hl : 0 < limit) (ts : List Token)
    (h : ∀ t ∈ ts, t.payload.isValue) : ungrouped? limit [] ts = some ts := by
  induction ts with
  | nil => simp [ungrouped?]
  | cons t ts ih =>
    have ht := h t List.mem_cons_self
    have hr := ih fun u hu => h u (List.mem_cons_of_mem _ hu)
    obtain ⟨number,p⟩ := t
    have hn : limit ≠ 0 := by omega
    cases p <;> simp_all [ungrouped?,Payload.isValue]

theorem fields?_flatMap_encode {limit : Nat} (hl : 0 < limit) (ts : List Token)
    (hf : ∀ t ∈ ts, t.Fits) (hv : ∀ t ∈ ts, t.payload.isValue) :
    fields? limit (ts.flatMap Token.encode) = some ts := by
  rw [fields?,tokens?_flatMap_encode ts hf,Option.bind_some,ungrouped?_of_isValue hl ts hv]

end Wire
end ClusterFramework
