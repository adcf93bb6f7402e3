import ClusterFramework.Proofs.Wire.RoundTrip

/-! Fields that a message type does not declare. Whatever their wire type, and whatever stands
inside their groups, they are passed over by exactly their length, so that what a message is
read as depends on its declared fields alone. -/
namespace ClusterFramework
namespace Wire

/-- Groups of seven bits that make up `n`, least significant first. They need not be the fewest;
`more` may follow the first, and one that none may follow holds a single bit. -/
inductive Groups : Nat → Octets → Nat → Prop
  | last {more : Nat} {b : UInt8} : b.toNat < 128 → (more = 0 → b.toNat < 2) →
      Groups more [b] b.toNat
  | next {more n : Nat} {b : UInt8} {rest : Octets} : 128 ≤ b.toNat → Groups more rest n →
      Groups (more+1) (b :: rest) (b.toNat-128+128*n)

def Spells (b : Octets) (n : Nat) : Prop := Groups 9 b n

def Opens (b : Octets) (number code : Nat) : Prop :=
  0 < number ∧ number < 0x20000000 ∧ Spells b (8*number+code)

inductive Holds : Nat → Octets → Prop
  | varint {b : Octets} {n : Nat} : Spells b n → Holds 0 b
  | fixed64 {b : Octets} : b.length = 8 → Holds 1 b
  | delimited {size b : Octets} : Spells size b.length → Holds 2 (size ++ b)
  | fixed32 {b : Octets} : b.length = 4 → Holds 5 b

/-- Fields one after the other, with their numbers. At depth zero there is none; the content of
a group is one less deep than the group. -/
inductive Fields : Nat → Octets → List Nat → Prop
  | nil {depth : Nat} : Fields depth [] []
  | value {depth number code : Nat} {key b rest : Octets} {numbers : List Nat} :
    Opens key number code → Holds code b → Fields (depth+1) rest numbers →
      Fields (depth+1) (key ++ b ++ rest) (number :: numbers)
  | group {depth number : Nat} {opening inside closing rest : Octets} {inner numbers : List Nat} :
    Opens opening number 3 → Fields depth inside inner → Opens closing number 4 →
      Fields (depth+1) rest numbers →
        Fields (depth+1) (opening ++ inside ++ closing ++ rest) (number :: numbers)

theorem Groups.lt {more n : Nat} {b : Octets} (h : Groups more b n) :
    n < 2*Nat.pow 128 more := by
  induction h with
  | @last more b hb hbit =>
    cases more with
    | zero => exact hbit rfl
    | succ more =>
      have hpos : 0 < Nat.pow 128 more := Nat.pow_pos (by decide)
      change _ < 2*(Nat.pow 128 more*128)
      omega
  | @next more n b rest _ _ ih =>
    have hb := b.toNat_lt
    change _ < 2*(Nat.pow 128 more*128)
    omega

theorem Groups.readGroups? {more n : Nat} {b : Octets} (h : Groups more b n) (rest : Octets) :
    readGroups? more (b ++ rest) = some (n,rest) := by
  induction h with
  | @last more b hb hbit => cases more <;> simp_all [Wire.readGroups?]
  | next hb _ ih => simp [Wire.readGroups?,Nat.not_lt.mpr hb,ih]

theorem groups_iff {more n : Nat} {b : Octets} :
    Groups more b n ↔ readGroups? more b = some (n,[]) := by
  constructor
  · intro h
    simpa using h.readGroups? []
  · intro h
    fun_induction Wire.readGroups? more b generalizing n with
    | case1 => cases h
    | case2 x rest hx =>
      cases h
      exact .last (by omega) (fun _ => hx)
    | case3 => cases h
    | case4 more x rest hx =>
      cases h
      exact .last hx (fun h0 => absurd h0 (Nat.succ_ne_zero more))
    | case5 more x rest hx ih =>
      obtain ⟨⟨m,left⟩,hm,he⟩ := Option.map_eq_some_iff.mp h
      cases he
      exact .next (Nat.not_lt.mp hx) (ih hm)

instance (b : Octets) (n : Nat) : Decidable (Spells b n) := decidable_of_iff' _ groups_iff

instance (b : Octets) (number code : Nat) : Decidable (Opens b number code) :=
  inferInstanceAs (Decidable (0 < number ∧ number < 0x20000000 ∧ Spells b (8*number+code)))

theorem Spells.lt {b : Octets} {n : Nat} (h : Spells b n) : n < UInt64.size := Groups.lt h

theorem Spells.readVarint? {b : Octets} {n : Nat} (h : Spells b n) (rest : Octets) :
    readVarint? (b ++ rest) = some (UInt64.ofNat n,rest) := by
  rw [Wire.readVarint?,Groups.readGroups? h]
  rfl

theorem Opens.readToken? {key : Octets} {number code : Nat} (h : Opens key number code)
    (hcode : code < 8) (b : Octets) :
    readToken? (key ++ b) = (readPayload? code b).map fun (p,rest) => (⟨number,p⟩,rest) := by
  obtain ⟨hpos,hlt,hkey⟩ := h
  have hvalue : (UInt64.ofNat (8*number+code)).toNat = 8*number+code :=
    Nat.mod_eq_of_lt hkey.lt
  have hdiv : (8*number+code)/8 = number := by omega
  have hmod : (8*number+code)%8 = code := by omega
  have hfits : 8*number+code < UInt32.size ∧ 8 ≤ 8*number+code :=
    ⟨by simp only [UInt32.size]; omega,by omega⟩
  rw [Wire.readToken?,hkey.readVarint?,Option.bind_some]
  simp only [hvalue,hdiv,hmod]
  rw [if_pos hfits]

theorem Holds.readPayload? {code : Nat} {b : Octets} (h : Holds code b) :
    ∃ p : Payload, p.isValue ∧ ∀ rest, readPayload? code (b ++ rest) = some (p,rest) := by
  cases h with
  | @varint b n hn =>
    exact ⟨.varint (UInt64.ofNat n),rfl,fun rest => by simp [Wire.readPayload?,hn.readVarint?]⟩
  | fixed64 hb =>
    refine ⟨.fixed64 (UInt64.ofNat (ofLittleEndian b)),rfl,fun rest => ?_⟩
    have ht := take?_append b rest
    rw [hb] at ht
    simp [Wire.readPayload?,ht]
  | @delimited size b hsize =>
    refine ⟨.delimited b,rfl,fun rest => ?_⟩
    have hn : (UInt64.ofNat b.length).toNat = b.length := Nat.mod_eq_of_lt hsize.lt
    simp [Wire.readPayload?,hsize.readVarint?,hn]
  | fixed32 hb =>
    refine ⟨.fixed32 (UInt32.ofNat (ofLittleEndian b)),rfl,fun rest => ?_⟩
    have ht := take?_append b rest
    rw [hb] at ht
    simp [Wire.readPayload?,ht]

/-- Tokens of which the groups are closed, with those outside every group. -/
inductive Balanced : Nat → List Token → List Token → Prop
  | nil {depth : Nat} : Balanced depth [] []
  | value {depth : Nat} {t : Token} {ts outer : List Token} :
    t.payload.isValue → Balanced (depth+1) ts outer → Balanced (depth+1) (t :: ts) (t :: outer)
  | group {depth number : Nat} {inside hidden ts outer : List Token} :
    Balanced depth inside hidden → Balanced (depth+1) ts outer →
      Balanced (depth+1) (⟨number,.groupStart⟩ :: (inside ++ ⟨number,.groupEnd⟩ :: ts))
        (⟨number,.groupStart⟩ :: outer)

theorem Fields.balanced {depth : Nat} {b : Octets} {numbers : List Nat}
    (h : Fields depth b numbers) :
    ∃ ts outer, Balanced depth ts outer ∧ outer.map Token.number = numbers ∧
      ∀ rest, tokens? (b ++ rest) = (tokens? rest).map (ts ++ ·) := by
  induction h with
  | nil => exact ⟨[],[],.nil,rfl,fun rest => by simp⟩
  | @value depth number code key b rest numbers hkey hb _ ih =>
    obtain ⟨ts,outer,hts,rfl,hread⟩ := ih
    obtain ⟨p,hp,hpayload⟩ := hb.readPayload?
    have hcode : code < 8 := by cases hb <;> decide
    refine ⟨⟨number,p⟩ :: ts,⟨number,p⟩ :: outer,.value hp hts,rfl,fun after => ?_⟩
    have htoken : readToken? (key ++ (b ++ (rest ++ after))) = some (⟨number,p⟩,rest ++ after) := by
      rw [hkey.readToken? hcode,hpayload]
      rfl
    rw [List.append_assoc,List.append_assoc,tokens?_of_readToken? htoken,hread,Option.map_map]
    rfl
  | @group depth number opening inside closing rest inner numbers hopen _ hclose _ ihi ih =>
    obtain ⟨is,hidden,his,_,hinside⟩ := ihi
    obtain ⟨ts,outer,hts,rfl,hread⟩ := ih
    refine ⟨_,_,@Balanced.group _ number _ _ _ _ his hts,rfl,fun after => ?_⟩
    have hfirst := hopen.readToken? (by decide) (inside ++ (closing ++ (rest ++ after)))
    have hlast := hclose.readToken? (by decide) (rest ++ after)
    rw [List.append_assoc,List.append_assoc,List.append_assoc,tokens?_of_readToken? hfirst,hinside,
      tokens?_of_readToken? hlast,hread]
    simp [Option.map_map,Function.comp_def]

theorem ungrouped?_cons_of_isValue {limit : Nat} {t : Token} (ht : t.payload.isValue)
    (ts : List Token) {opened : List Nat} (ho : opened.length < limit) :
    ungrouped? limit opened (t :: ts) =
      if opened = [] then (ungrouped? limit [] ts).map (t :: ·) else ungrouped? limit opened ts := by
  obtain ⟨number,p⟩ := t
  cases opened with
  | nil =>
    have hlimit : limit ≠ 0 := Nat.ne_of_gt ho
    cases p <;> first | exact absurd ht Bool.false_ne_true | simp [ungrouped?,hlimit]
  | cons n opened =>
    have hlimit : ¬limit ≤ opened.length+1 := Nat.not_le.mpr ho
    cases p <;> first | exact absurd ht Bool.false_ne_true | simp [ungrouped?,hlimit]

theorem ungrouped?_groupStart {limit : Nat} (number : Nat) (ts : List Token) {opened : List Nat}
    (ho : opened.length < limit) :
    ungrouped? limit opened (⟨number,.groupStart⟩ :: ts) =
      if opened = [] then (ungrouped? limit [number] ts).map (⟨number,.groupStart⟩ :: ·)
      else ungrouped? limit (number :: opened) ts := by
  cases opened with
  | nil =>
    have hlimit : limit ≠ 0 := Nat.ne_of_gt ho
    simp [ungrouped?,hlimit]
  | cons n opened =>
    have hlimit : ¬limit ≤ opened.length+1 := Nat.not_le.mpr ho
    simp [ungrouped?,hlimit]

theorem ungrouped?_groupEnd (limit number : Nat) (outer : List Nat) (ts : List Token) :
    ungrouped? limit (number :: outer) (⟨number,.groupEnd⟩ :: ts) = ungrouped? limit outer ts := by
  simp [ungrouped?]

/-- Inside a group everything balanced is passed over. -/
theorem Balanced.ungrouped?_inside {depth : Nat} {ts outer : List Token}
    (h : Balanced depth ts outer) {limit : Nat} {opened : List Nat} (ho : opened ≠ [])
    (hl : opened.length+depth ≤ limit) (us : List Token) :
    ungrouped? limit opened (ts ++ us) = ungrouped? limit opened us := by
  induction h generalizing opened us with
  | nil => rfl
  | value ht _ ih =>
    rw [List.cons_append,ungrouped?_cons_of_isValue ht _ (by omega),if_neg ho,ih ho hl]
  | @group depth number inside hidden ts outer _ _ ihi ih =>
    have hinside : (number :: opened).length+depth ≤ limit := by
      simp only [List.length_cons]; omega
    rw [List.cons_append,List.append_assoc,ungrouped?_groupStart _ _ (by omega),if_neg ho,
      ihi (List.cons_ne_nil _ _) hinside,List.cons_append,ungrouped?_groupEnd,ih ho hl]

theorem Balanced.ungrouped?_nil {depth : Nat} {ts outer : List Token}
    (h : Balanced depth ts outer) {limit : Nat} (hl : depth ≤ limit) (us : List Token) :
    ungrouped? limit [] (ts ++ us) = (ungrouped? limit [] us).map (outer ++ ·) := by
  induction h generalizing us with
  | nil => simp
  | value ht _ ih =>
    rw [List.cons_append,ungrouped?_cons_of_isValue ht _ (Nat.lt_of_lt_of_le (Nat.succ_pos _) hl),
      if_pos rfl,ih hl,Option.map_map]
    rfl
  | @group depth number inside hidden ts outer hi _ _ ih =>
    have hinside : [number].length+depth ≤ limit := by simp only [List.length_singleton]; omega
    rw [List.cons_append,List.append_assoc,
      ungrouped?_groupStart _ _ (Nat.lt_of_lt_of_le (Nat.succ_pos _) hl),if_pos rfl,
      hi.ungrouped?_inside (List.cons_ne_nil _ _) hinside,List.cons_append,ungrouped?_groupEnd,
      ih hl,Option.map_map]
    rfl

/-- Fields in front of others are read as their own tokens outside every group, whatever
follows. -/
theorem Fields.fields?_append {depth : Nat} {b : Octets} {numbers : List Nat}
    (h : Fields depth b numbers) {limit : Nat} (hl : depth ≤ limit) :
    ∃ outer, outer.map Token.number = numbers ∧
      ∀ rest, fields? limit (b ++ rest) = (fields? limit rest).map (outer ++ ·) := by
  obtain ⟨ts,outer,hts,hnumbers,hread⟩ := h.balanced
  refine ⟨outer,hnumbers,fun rest => ?_⟩
  rw [fields?,fields?,hread]
  cases tokens? rest with
  | none => rfl
  | some us => exact hts.ungrouped?_nil hl us

theorem fields?_encode_append {limit : Nat} (hl : 0 < limit) {t : Token} (ht : t.Fits)
    (hv : t.payload.isValue) (rest : Octets) :
    fields? limit (t.encode ++ rest) = (fields? limit rest).map (t :: ·) := by
  rw [fields?,fields?,tokens?_encode_append t ht]
  cases tokens? rest with
  | none => rfl
  | some us => exact ungrouped?_cons_of_isValue hv us hl

/-- What is encoded of the tokens, with further octets in front of each and behind the last. -/
def interspersed (gap : Nat → Octets) : List Token → Octets
  | [] => gap 0
  | t :: ts => gap 0 ++ t.encode ++ interspersed (fun i => gap (i+1)) ts

namespace Schema

/-- Octets made of fields none of which the schema declares. -/
def Foreign (s : Schema) (b : Octets) : Prop :=
  ∃ numbers, Fields nestingLimit b numbers ∧ ∀ n ∈ numbers, n ∉ s.numbers

theorem foldlM_absorb_filter (s : Schema) (limit : Nat) (ts : List Token) (r : s.Record) :
    ts.foldlM (s.absorb limit) r =
      (ts.filter fun t => t.number ∈ s.numbers).foldlM (s.absorb limit) r := by
  induction ts generalizing r with
  | nil => rfl
  | cons t ts ih =>
    by_cases ht : t.number ∈ s.numbers
    · rw [List.filter_cons_of_pos (by simpa using ht),List.foldlM_cons,List.foldlM_cons]
      exact bind_congr fun r' => ih r'
    · rw [List.filter_cons_of_neg (by simpa using ht),List.foldlM_cons,absorb_of_not_mem ht]
      exact ih r

theorem Foreign.fields?_append {s : Schema} {b : Octets} (h : s.Foreign b) :
    ∃ outer : List Token, (outer.filter fun t => t.number ∈ s.numbers) = [] ∧
      ∀ rest, fields? nestingLimit (b ++ rest) =
        (fields? nestingLimit rest).map (outer ++ ·) := by
  obtain ⟨numbers,hfields,hnot⟩ := h
  obtain ⟨outer,rfl,hread⟩ := hfields.fields?_append (Nat.le_refl _)
  refine ⟨outer,?_,hread⟩
  simpa [List.filter_eq_nil_iff] using hnot

/-- Foreign fields in front of each token and behind the last leave the declared ones as they
were. -/
theorem fields?_interspersed {s : Schema} {gap : Nat → Octets} (hgap : ∀ i, s.Foreign (gap i))
    {ts : List Token}
    (hts : ∀ t ∈ ts, t.Fits ∧ t.payload.isValue ∧ t.number ∈ s.numbers) :
    ∃ mixed, fields? nestingLimit (interspersed gap ts) = some mixed ∧
      (mixed.filter fun t => t.number ∈ s.numbers) = ts := by
  induction ts generalizing gap with
  | nil =>
    obtain ⟨outer,hnone,hread⟩ := (hgap 0).fields?_append
    refine ⟨outer,?_,hnone⟩
    simpa [interspersed,fields?,ungrouped?] using hread []
  | cons t ts ih =>
    obtain ⟨hfits,hvalue,hmem⟩ := hts t List.mem_cons_self
    obtain ⟨mixed,hmixed,hfilter⟩ := ih (fun i => hgap (i+1))
      fun u hu => hts u (List.mem_cons_of_mem t hu)
    obtain ⟨outer,hnone,hread⟩ := (hgap 0).fields?_append
    refine ⟨outer ++ t :: mixed,?_,?_⟩
    · rw [interspersed,List.append_assoc,hread,fields?_encode_append (by decide) hfits hvalue,
        hmixed]
      rfl
    · rw [List.filter_append,hnone,List.filter_cons_of_pos (by simpa using hmem),hfilter]
      rfl

theorem decode?_interspersed_of_sound {s : Schema} (h : s.Sound) {r : s.Record}
    (hr : (s.encode r).length < UInt64.size) {gap : Nat → Octets}
    (hgap : ∀ i, s.Foreign (gap i)) :
    s.decode? (interspersed gap (s.tokens r)) = s.decode? (s.encode r) := by
  have hts : ∀ t ∈ s.tokens r, t.Fits ∧ t.payload.isValue ∧ t.number ∈ s.numbers :=
    fun t ht => ⟨h.1.fits hr ht,isValue_of_mem_tokens ht,number_mem_of_mem_tokens ht⟩
  obtain ⟨mixed,hmixed,hfilter⟩ := fields?_interspersed hgap hts
  rw [decode?,hmixed,Option.bind_some,foldlM_absorb_filter,hfilter,decode?,
    fields?_encode h.1 (by decide) hr,Option.bind_some]

end Schema

end Wire
end ClusterFramework
