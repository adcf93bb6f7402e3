import ClusterFramework.Text.Utf8

/-! Integers on the wire. A varint carries seven bits an octet, least significant first,
and takes ten octets at most, the tenth holding a single bit. Fixed words are little-endian. -/
namespace ClusterFramework
namespace Wire

/-- The groups of `n`, all but the last carrying the continuation bit; `more` bounds how
many groups may follow the first. -/
def groups : Nat → Nat → Octets
  | 0, n => [UInt8.ofNat n]
  | more+1, n =>
    if n < 128 then [UInt8.ofNat n] else UInt8.ofNat (n%128+128) :: groups more (n/128)

/-- The value of the leading groups and the octets after them. -/
def readGroups? : Nat → Octets → Option (Nat × Octets)
  | _, [] => none
  | 0, b :: rest => if b.toNat < 2 then some (b.toNat,rest) else none
  | more+1, b :: rest =>
    if b.toNat < 128 then some (b.toNat,rest)
    else (readGroups? more rest).map fun (n,rest) => (b.toNat-128+128*n,rest)

theorem readGroups?_groups (more n : Nat) (rest : Octets) (h : n < 2*Nat.pow 128 more) :
    readGroups? more (groups more n ++ rest) = some (n,rest) := by
  induction more generalizing n with
  | zero =>
    change n < 2 at h
    have hn : n%256 = n := Nat.mod_eq_of_lt (by omega)
    simp [groups,readGroups?,hn,h]
  | succ more ih =>
    by_cases hn : n < 128
    · have h' : n%256 = n := Nat.mod_eq_of_lt (by omega)
      simp [groups,readGroups?,hn,h']
    · have hb : (n%128+128)%256 = n%128+128 := Nat.mod_eq_of_lt (by omega)
      have hq : n/128 < 2*Nat.pow 128 more := by
        change n < 2*(Nat.pow 128 more*128) at h
        exact Nat.div_lt_of_lt_mul (by omega)
      simp only [groups,hn,if_false,List.cons_append,readGroups?,UInt8.toNat_ofNat',hb]
      rw [if_neg (by omega),ih _ hq]
      simp only [Option.map_some,Nat.add_sub_cancel]
      rw [Nat.mod_add_div]

theorem readGroups?_shorter {more : Nat} {b rest : Octets} {n : Nat}
    (h : readGroups? more b = some (n,rest)) : rest.length < b.length := by
  induction more generalizing b n with
  | zero =>
    cases b with
    | nil => simp [readGroups?] at h
    | cons x b =>
      simp only [readGroups?] at h
      split at h <;> simp_all
  | succ more ih =>
    cases b with
    | nil => simp [readGroups?] at h
    | cons x b =>
      simp only [readGroups?] at h
      split at h
      · simp_all
      · simp only [Option.map_eq_some_iff] at h
        obtain ⟨⟨m,r⟩,hr,he⟩ := h
        cases he
        exact Nat.lt_succ_of_lt (ih hr)

def varint (w : UInt64) : Octets := groups 9 w.toNat

def readVarint? (b : Octets) : Option (UInt64 × Octets) :=
  (readGroups? 9 b).map fun (n,rest) => (UInt64.ofNat n,rest)

@[simp] theorem readVarint?_varint (w : UInt64) (rest : Octets) :
    readVarint? (varint w ++ rest) = some (w,rest) := by
  have h : w.toNat < 2*Nat.pow 128 9 := by have := w.toNat_lt; omega
  simp [readVarint?,varint,readGroups?_groups _ _ _ h]

theorem readVarint?_shorter {b rest : Octets} {w : UInt64}
    (h : readVarint? b = some (w,rest)) : rest.length < b.length := by
  simp only [readVarint?,Option.map_eq_some_iff] at h
  obtain ⟨⟨n,r⟩,hr,he⟩ := h
  cases he
  exact readGroups?_shorter hr

/-- The `width` low octets of `n`, least significant first. -/
def littleEndian : Nat → Nat → Octets
  | 0, _ => []
  | width+1, n => UInt8.ofNat n :: littleEndian width (n/256)

def ofLittleEndian : Octets → Nat
  | [] => 0
  | b :: rest => b.toNat + 256 * ofLittleEndian rest

@[simp] theorem littleEndian_length (width n : Nat) : (littleEndian width n).length = width := by
  induction width generalizing n with
  | zero => rfl
  | succ width ih => simp [littleEndian,ih]

theorem ofLittleEndian_littleEndian (width n : Nat) (h : n < Nat.pow 256 width) :
    ofLittleEndian (littleEndian width n) = n := by
  induction width generalizing n with
  | zero => simp at h; simp [littleEndian,ofLittleEndian,h]
  | succ width ih =>
    have hq : n/256 < Nat.pow 256 width := by
      change n < Nat.pow 256 width*256 at h
      exact Nat.div_lt_of_lt_mul (by omega)
    simp only [littleEndian,ofLittleEndian,ih _ hq,UInt8.toNat_ofNat']
    exact Nat.mod_add_div n 256

end Wire
end ClusterFramework
