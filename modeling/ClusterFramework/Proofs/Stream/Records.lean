import ClusterFramework.Stream.Events

/-! A record is read back from any source whose octets begin with it, and the source is left
at the octets after it. Whether its payload is an event makes no difference to that. -/
namespace ClusterFramework
namespace Stream

def lengthDigits (n : Nat) : Octets := (Nat.toDigits 10 n).map fun c => c.toUInt8

theorem encodeRecord_eq (payload : Octets) :
    encodeRecord payload = lengthDigits payload.length ++ newline :: payload := rfl

theorem toNat_toUInt8_of_isDigit {c : Char} (h : c.isDigit) :
    c.toUInt8.toNat = c.toNat ∧ 48 ≤ c.toNat ∧ c.toNat ≤ 57 := by
  have hc := Char.isDigit_iff_toNat.mp h
  have ht : c.toUInt8.toNat = c.toNat%256 := UInt32.toNat_toUInt8 c.val
  simp only [Char.reduceToNat] at hc
  omega

theorem digit_of_mem_lengthDigits {n : Nat} {b : UInt8} (h : b ∈ lengthDigits n) :
    48 ≤ b.toNat ∧ b.toNat ≤ 57 := by
  obtain ⟨c,hc,rfl⟩ := List.mem_map.mp h
  have hd := toNat_toUInt8_of_isDigit (Nat.isDigit_of_mem_toDigits (by decide) (by decide) hc)
  omega

theorem newline_not_mem_lengthDigits (n : Nat) : newline ∉ lengthDigits n := by
  intro h
  have hd := (digit_of_mem_lengthDigits h).1
  exact absurd hd (by decide)

theorem lengthDigits_length_le {n : Nat} (h : n < UInt64.size) :
    (lengthDigits n).length ≤ maxLengthDigits := by
  rw [lengthDigits,List.length_map,maxLengthDigits,
    Nat.length_toDigits_le_iff (by decide) (by decide)]
  exact Nat.lt_trans h (by decide)

theorem foldl_digits (cs : List Char) (h : ∀ c ∈ cs, c.isDigit) (n : Nat) :
    (cs.map fun c => c.toUInt8).foldl (fun n b => 10*n+(b.toNat-48)) n =
      Nat.ofDigitChars 10 cs n := by
  induction cs generalizing n with
  | nil => rfl
  | cons c cs ih =>
    have hc := (toNat_toUInt8_of_isDigit (h c List.mem_cons_self)).1
    have hcs : ∀ c ∈ cs, c.isDigit := fun c hc => h c (List.mem_cons_of_mem _ hc)
    rw [List.map_cons,List.foldl_cons,hc,ih hcs,Nat.ofDigitChars_cons]
    rfl

theorem lengthOf?_lengthDigits {n : Nat} (h : n < UInt64.size) :
    lengthOf? (lengthDigits n) = some n := by
  have hne : lengthDigits n ≠ [] := by simp [lengthDigits,Nat.toDigits_ne_nil]
  have hall : (lengthDigits n).all fun b => 48 ≤ b.toNat ∧ b.toNat ≤ 57 :=
    List.all_eq_true.mpr fun b hb => decide_eq_true (digit_of_mem_lengthDigits hb)
  have hv : (lengthDigits n).foldl (fun n b => 10*n+(b.toNat-48)) 0 = n := by
    rw [lengthDigits,foldl_digits _ fun c hc =>
      Nat.isDigit_of_mem_toDigits (by decide) (by decide) hc,Nat.ofDigitChars_ten_toDigits]
  rw [lengthOf?,if_pos ⟨hne,hall⟩,hv]
  exact if_pos h

theorem takeThrough_of_not_mem {stop : UInt8} {line : Octets} (h : stop ∉ line) {limit : Nat}
    (hl : line.length < limit) (rest : Octets) :
    takeThrough stop limit (line ++ stop :: rest) = (line ++ [stop],rest) := by
  induction line generalizing limit with
  | nil =>
    obtain ⟨limit,rfl⟩ : ∃ n, limit = n+1 := Nat.exists_eq_succ_of_ne_zero (by omega)
    simp [takeThrough]
  | cons x line ih =>
    obtain ⟨limit,rfl⟩ : ∃ n, limit = n+1 := Nat.exists_eq_succ_of_ne_zero (by omega)
    simp only [List.mem_cons,not_or] at h
    have hx : x ≠ stop := Ne.symm h.1
    simp only [List.length_cons] at hl
    simp [takeThrough,hx,ih h.2 (by omega : line.length < limit)]

theorem takeThrough_of_absent {stop : UInt8} {b : Octets} (h : stop ∉ b) {limit : Nat}
    (hl : b.length ≤ limit) : takeThrough stop limit b = (b,[]) := by
  induction b generalizing limit with
  | nil => cases limit <;> rfl
  | cons x b ih =>
    obtain ⟨limit,rfl⟩ : ∃ n, limit = n+1 :=
      Nat.exists_eq_succ_of_ne_zero (Nat.ne_of_gt (Nat.lt_of_lt_of_le (Nat.succ_pos _) hl))
    simp only [List.mem_cons,not_or] at h
    have hx : x ≠ stop := Ne.symm h.1
    simp [takeThrough,hx,ih h.2 (Nat.le_of_succ_le_succ hl)]

theorem lineOf_of_line {s : Source} {line rest : Octets}
    (hs : s.octets = line ++ newline :: rest) (hn : newline ∉ line)
    (hl : line.length ≤ maxLengthDigits) :
    ∃ pieces, pieces.flatten = rest ∧
      lineOf newline (maxLengthDigits+1) s.pieces = (line ++ [newline],pieces) := by
  have hline := lineOf_eq newline (maxLengthDigits+1) s.pieces
  rw [← Source.octets,hs,takeThrough_of_not_mem hn (Nat.lt_succ_of_le hl)] at hline
  exact ⟨_,hline.2,Prod.ext hline.1 rfl⟩

/-- Behind a length line, of a length within the limit, a payload of that size is due. -/
theorem readRecord_of_line {s : Source} {line rest : Octets} {size : Nat}
    (hs : s.octets = line ++ newline :: rest) (hn : newline ∉ line)
    (hl : line.length ≤ maxLengthDigits) (hv : lengthOf? line = some size)
    (hp : size ≤ maxRecordSize) :
    ∃ pieces, pieces.flatten = rest ∧ readRecord s = readPayload size pieces s.failure := by
  obtain ⟨pieces,hpieces,hr⟩ := lineOf_of_line hs hn hl
  refine ⟨pieces,hpieces,?_⟩
  simp [readRecord,hr,hv,Nat.not_lt.mpr hp]

/-- A complete record: its length line, of a length within the limit, and its payload. -/
theorem readRecord_of_complete {s : Source} {line payload rest : Octets}
    (hs : s.octets = line ++ newline :: (payload ++ rest)) (hn : newline ∉ line)
    (hl : line.length ≤ maxLengthDigits) (hv : lengthOf? line = some payload.length)
    (hp : payload.length ≤ maxRecordSize) :
    ∃ left : Source, readRecord s = (.ok (some payload),left) ∧ left.octets = rest ∧
      left.failure = s.failure := by
  obtain ⟨pieces,hpieces,hr⟩ := readRecord_of_line hs hn hl hv hp
  have hblock := blockOf_eq payload.length pieces
  rw [hpieces,List.take_left,List.drop_left] at hblock
  generalize hb : blockOf payload.length pieces = b at hblock
  obtain ⟨taken,left⟩ := b
  obtain ⟨rfl,hleft⟩ := hblock
  refine ⟨⟨left,s.failure⟩,?_,hleft,rfl⟩
  simp [hr,readPayload,hb]

theorem readRecord_encodeRecord {s : Source} {payload rest : Octets}
    (hs : s.octets = encodeRecord payload ++ rest) (hp : payload.length ≤ maxRecordSize) :
    ∃ left : Source, readRecord s = (.ok (some payload),left) ∧ left.octets = rest ∧
      left.failure = s.failure := by
  have hsize : payload.length < UInt64.size := Nat.lt_of_le_of_lt hp (by decide)
  exact readRecord_of_complete (by simp [hs,encodeRecord_eq]) (newline_not_mem_lengthDigits _)
    (lengthDigits_length_le hsize) (lengthOf?_lengthDigits hsize) hp

/-- A payload that is not all there. -/
theorem readRecord_of_short {s : Source} {line rest : Octets} {size : Nat}
    (hs : s.octets = line ++ newline :: rest) (hn : newline ∉ line)
    (hl : line.length ≤ maxLengthDigits) (hv : lengthOf? line = some size)
    (hp : size ≤ maxRecordSize) (hr : rest.length < size) :
    readRecord s = atEnd s.failure (.error (.truncatedRecord size rest.length)) := by
  obtain ⟨pieces,hpieces,hread⟩ := readRecord_of_line hs hn hl hv hp
  have htaken : (blockOf size pieces).1 = rest := by
    rw [(blockOf_eq size pieces).1,hpieces,List.take_of_length_le (Nat.le_of_lt hr)]
  rw [hread,readPayload]
  simp [htaken,hr]

/-- A length line that is not all there. Before its first octet nothing is missing. -/
theorem readRecord_of_open_line {s : Source} (hn : newline ∉ s.octets)
    (hl : s.octets.length ≤ maxLengthDigits) :
    readRecord s =
      atEnd s.failure (if s.octets = [] then .ok none else .error .truncatedLength) := by
  have hline := lineOf_eq newline (maxLengthDigits+1) s.pieces
  rw [← Source.octets,takeThrough_of_absent hn (Nat.le_succ_of_le hl)] at hline
  have hlast : s.octets.getLast? ≠ some newline := fun h => hn (List.mem_of_getLast? h)
  generalize hr : lineOf newline (maxLengthDigits+1) s.pieces = r at hline
  obtain ⟨line,pieces⟩ := r
  obtain ⟨hline,_⟩ := hline
  simp only at hline
  rw [readRecord,hr,hline]
  dsimp only
  rw [if_neg hlast,if_neg (Nat.not_lt.mpr hl)]
  split <;> rfl

theorem readRecord_nil {s : Source} (hs : s.octets = []) (hf : s.failure = none) :
    readRecord s = (.ok none,⟨[],none⟩) := by
  rw [readRecord_of_open_line (by simp [hs]) (by simp [hs]),hf,if_pos hs]
  rfl

theorem length_le_length_flatMap_encodeRecord (payloads : List Octets) :
    payloads.length ≤ (payloads.flatMap encodeRecord).length := by
  induction payloads with
  | nil => exact Nat.le_refl _
  | cons p ps ih =>
    simp only [List.length_cons,List.flatMap_cons,List.length_append,encodeRecord_eq]
    omega

end Stream
end ClusterFramework
