import ClusterFramework.Proofs.Stream.Records
import Mathlib.Data.Nat.Digits.Defs

/-! One read against the grammar of records. Whatever the octets of a stream are, exactly one
rule applies to them, and the read answers and consumes what that rule says. -/
namespace ClusterFramework
namespace Stream

structure Denotes (line : Octets) (n : Nat) : Prop where
  ne_nil : line ≠ []
  digits : ∀ b ∈ line, 48 ≤ b.toNat ∧ b.toNat ≤ 57
  value : Nat.ofDigits 10 (line.reverse.map fun b => b.toNat-48) = n

/-- A line that is no length: without a character, with one that is no digit, or of a value that
64 bits do not hold. -/
def Unusable (line : Octets) : Prop :=
  line = [] ∨ (∃ b ∈ line, ¬(48 ≤ b.toNat ∧ b.toNat ≤ 57)) ∨ ∃ n, Denotes line n ∧ 2^64 ≤ n

/-- What a stream is answered with, and what is left of it. -/
inductive Reading : Octets → Except RecordError (Option Octets) → Octets → Prop
  | ended : Reading [] (.ok none) []
  | record {line payload rest : Octets} :
    line.length ≤ 20 → Denotes line payload.length → payload.length ≤ maxRecordSize →
      Reading (line ++ newline :: (payload ++ rest)) (.ok (some payload)) rest
  | openLine {b : Octets} : b ≠ [] → b.length ≤ 20 → newline ∉ b →
      Reading b (.error .truncatedLength) []
  | overlong {line rest : Octets} : line.length = 21 → newline ∉ line →
      Reading (line ++ rest) (.error (.invalidLength line)) rest
  | unusable {line rest : Octets} : line.length ≤ 20 → newline ∉ line → Unusable line →
      Reading (line ++ newline :: rest) (.error (.invalidLength line)) rest
  | tooLarge {line rest : Octets} {n : Nat} :
    line.length ≤ 20 → Denotes line n → maxRecordSize < n → n < 2^64 →
      Reading (line ++ newline :: rest) (.error (.recordTooLarge n)) rest
  | short {line received : Octets} {n : Nat} :
    line.length ≤ 20 → Denotes line n → n ≤ maxRecordSize → received.length < n →
      Reading (line ++ newline :: received) (.error (.truncatedRecord n received.length)) []

theorem foldl_eq_ofDigits (line : Octets) (n : Nat) :
    line.foldl (fun n b => 10*n+(b.toNat-48)) n =
      Nat.ofDigits 10 (line.reverse.map fun b => b.toNat-48) + 10^line.length*n := by
  induction line generalizing n with
  | nil => simp
  | cons b line ih =>
    rw [List.foldl_cons,ih,List.reverse_cons,List.map_append,Nat.ofDigits_append,List.map_singleton,
      Nat.ofDigits_singleton,List.length_map,List.length_reverse,List.length_cons,pow_succ]
    ring

theorem lengthOf?_eq_some_iff (line : Octets) (n : Nat) :
    lengthOf? line = some n ↔ Denotes line n ∧ n < 2^64 := by
  have hvalue := foldl_eq_ofDigits line 0
  rw [Nat.mul_zero,Nat.add_zero] at hvalue
  rw [lengthOf?,hvalue]
  constructor
  · intro h
    split at h
    · rename_i hline
      dsimp only at h
      split at h
      · rename_i hlt
        cases h
        have hdigits : ∀ b ∈ line, 48 ≤ b.toNat ∧ b.toNat ≤ 57 := by simpa using hline.2
        exact ⟨⟨hline.1,hdigits,rfl⟩,hlt⟩
      · cases h
    · cases h
  · rintro ⟨⟨hne,hdigits,rfl⟩,hlt⟩
    have hall : line.all fun b => 48 ≤ b.toNat ∧ b.toNat ≤ 57 := by simpa using hdigits
    rw [if_pos ⟨hne,hall⟩]
    exact if_pos hlt

theorem Denotes.newline_not_mem {line : Octets} {n : Nat} (h : Denotes line n) :
    newline ∉ line := fun hmem => absurd (h.digits newline hmem).1 (by decide)

theorem lengthOf?_eq_none_iff (line : Octets) : lengthOf? line = none ↔ Unusable line := by
  constructor
  · intro h
    by_cases hne : line = []
    · exact .inl hne
    · by_cases hdigits : ∀ b ∈ line, 48 ≤ b.toNat ∧ b.toNat ≤ 57
      · refine .inr (.inr ⟨_,⟨hne,hdigits,rfl⟩,Nat.not_lt.mp fun hlt => ?_⟩)
        rw [(lengthOf?_eq_some_iff line _).mpr ⟨⟨hne,hdigits,rfl⟩,hlt⟩] at h
        cases h
      · exact .inr (.inl (by simpa only [not_forall,exists_prop] using hdigits))
  · intro h
    refine Option.eq_none_iff_forall_ne_some.mpr fun n hn => ?_
    obtain ⟨⟨hne,hdigits,rfl⟩,hlt⟩ := (lengthOf?_eq_some_iff line n).mp hn
    rcases h with hnil | ⟨b,hb,hnot⟩ | ⟨m,hm,hle⟩
    · exact hne hnil
    · exact hnot (hdigits b hb)
    · exact Nat.not_lt.mpr hle (hm.value ▸ hlt)

theorem takeThrough_of_full {stop : UInt8} {line : Octets} (h : stop ∉ line) (rest : Octets) :
    takeThrough stop line.length (line ++ rest) = (line,rest) := by
  induction line with
  | nil => rfl
  | cons x line ih =>
    simp only [List.mem_cons,not_or] at h
    have hx : x ≠ stop := Ne.symm h.1
    simp [takeThrough,hx,ih h.2]

theorem readRecord_of_overlong {s : Source} {line rest : Octets} (hs : s.octets = line ++ rest)
    (hl : line.length = maxLengthDigits+1) (hn : newline ∉ line) :
    ∃ left : Source, readRecord s = (.error (.invalidLength line),left) ∧ left.octets = rest ∧
      left.failure = s.failure := by
  have hline := lineOf_eq newline (maxLengthDigits+1) s.pieces
  rw [← Source.octets,hs,← hl,takeThrough_of_full hn,hl] at hline
  generalize hr : lineOf newline (maxLengthDigits+1) s.pieces = r at hline
  obtain ⟨first,pieces⟩ := r
  obtain ⟨rfl,hpieces⟩ := hline
  have hlast : first.getLast? ≠ some newline := fun h => hn (List.mem_of_getLast? h)
  have hlong : maxLengthDigits < first.length := hl ▸ Nat.lt_succ_self maxLengthDigits
  refine ⟨⟨pieces,s.failure⟩,?_,hpieces,rfl⟩
  simp [readRecord,hr,hlast,hlong]

theorem readRecord_of_unusable {s : Source} {line rest : Octets}
    (hs : s.octets = line ++ newline :: rest) (hn : newline ∉ line)
    (hl : line.length ≤ maxLengthDigits) (hv : lengthOf? line = none) :
    ∃ left : Source, readRecord s = (.error (.invalidLength line),left) ∧ left.octets = rest ∧
      left.failure = s.failure := by
  obtain ⟨pieces,hpieces,hr⟩ := lineOf_of_line hs hn hl
  exact ⟨⟨pieces,s.failure⟩,by simp [readRecord,hr,hv],hpieces,rfl⟩

theorem readRecord_of_tooLarge {s : Source} {line rest : Octets} {size : Nat}
    (hs : s.octets = line ++ newline :: rest) (hn : newline ∉ line)
    (hl : line.length ≤ maxLengthDigits) (hv : lengthOf? line = some size)
    (hp : maxRecordSize < size) :
    ∃ left : Source, readRecord s = (.error (.recordTooLarge size),left) ∧ left.octets = rest ∧
      left.failure = s.failure := by
  obtain ⟨pieces,hpieces,hr⟩ := lineOf_of_line hs hn hl
  exact ⟨⟨pieces,s.failure⟩,by simp [readRecord,hr,hv,hp],hpieces,rfl⟩

/-- The read does what a rule says, but for a failure, which comes before the answer where the
source has nothing left. -/
theorem readRecord_of_rule {s : Source} {rest : Octets}
    {answer : Except RecordError (Option Octets)} (h : Reading s.octets answer rest) :
    (∃ left : Source, readRecord s = (answer,left) ∧ left.octets = rest ∧
        left.failure = s.failure) ∨
      rest = [] ∧ readRecord s = atEnd s.failure answer := by
  generalize hs : s.octets = b at h
  cases h with
  | ended =>
    have hread := readRecord_of_open_line (s := s) (by simp [hs]) (by simp [hs])
    rw [if_pos hs] at hread
    exact .inr ⟨rfl,hread⟩
  | @record line payload _ hl hd hp =>
    have hv := (lengthOf?_eq_some_iff line payload.length).mpr
      ⟨hd,Nat.lt_of_le_of_lt hp (by decide)⟩
    exact .inl (readRecord_of_complete hs hd.newline_not_mem hl hv hp)
  | openLine hne hl hn =>
    subst hs
    have hread := readRecord_of_open_line hn hl
    rw [if_neg hne] at hread
    exact .inr ⟨rfl,hread⟩
  | overlong hl hn => exact .inl (readRecord_of_overlong hs hl hn)
  | unusable hl hn hu =>
    exact .inl (readRecord_of_unusable hs hn hl ((lengthOf?_eq_none_iff _).mpr hu))
  | @tooLarge line _ n hl hd hp hlt =>
    have hv := (lengthOf?_eq_some_iff line n).mpr ⟨hd,hlt⟩
    exact .inl (readRecord_of_tooLarge hs hd.newline_not_mem hl hv hp)
  | @short line received n hl hd hp hshort =>
    have hv := (lengthOf?_eq_some_iff line n).mpr ⟨hd,Nat.lt_of_le_of_lt hp (by decide)⟩
    exact .inr ⟨rfl,readRecord_of_short hs hd.newline_not_mem hl hv hp hshort⟩

theorem readRecord_of_reading {s : Source} (hf : s.failure = none) {rest : Octets}
    {answer : Except RecordError (Option Octets)} (h : Reading s.octets answer rest) :
    ∃ left : Source, readRecord s = (answer,left) ∧ left.octets = rest := by
  rcases readRecord_of_rule h with ⟨left,hread,hleft,_⟩ | ⟨rfl,hread⟩
  · exact ⟨left,hread,hleft⟩
  · rw [hf] at hread
    exact ⟨⟨[],none⟩,hread,rfl⟩

theorem exists_reading_of_line {line : Octets} (hl : line.length ≤ 20) (hn : newline ∉ line)
    (after : Octets) : ∃ answer rest, Reading (line ++ newline :: after) answer rest := by
  cases hv : lengthOf? line with
  | none => exact ⟨_,_,.unusable hl hn ((lengthOf?_eq_none_iff line).mp hv)⟩
  | some n =>
    obtain ⟨hd,hlt⟩ := (lengthOf?_eq_some_iff line n).mp hv
    rcases Nat.lt_or_ge maxRecordSize n with hlarge | hsize
    · exact ⟨_,_,.tooLarge hl hd hlarge hlt⟩
    · rcases Nat.lt_or_ge after.length n with hshort | hall
      · exact ⟨_,_,.short hl hd hsize hshort⟩
      · have hlen : (after.take n).length = n := List.length_take_of_le hall
        have hread : Reading (line ++ newline :: (after.take n ++ after.drop n))
            (.ok (some (after.take n))) (after.drop n) :=
          .record hl (hlen.symm ▸ hd) (hlen.symm ▸ hsize)
        rw [List.take_append_drop] at hread
        exact ⟨_,_,hread⟩

theorem exists_reading (b : Octets) : ∃ answer rest, Reading b answer rest := by
  by_cases hmem : newline ∈ b.take 21
  · obtain ⟨line,more,hsplit,hn⟩ := List.eq_append_cons_of_mem hmem
    have hl : line.length ≤ 20 := by
      have hle := List.length_take_le 21 b
      rw [hsplit,List.length_append,List.length_cons] at hle
      omega
    have hb : b = line ++ newline :: (more ++ b.drop 21) := by
      conv => lhs; rw [← List.take_append_drop 21 b,hsplit]
      simp
    rw [hb]
    exact exists_reading_of_line hl hn _
  · rcases Nat.lt_or_ge 20 b.length with hlong | hl
    · have hread : Reading (b.take 21 ++ b.drop 21) (.error (.invalidLength (b.take 21)))
          (b.drop 21) := .overlong (List.length_take_of_le hlong) hmem
      rw [List.take_append_drop] at hread
      exact ⟨_,_,hread⟩
    · by_cases hnil : b = []
      · subst hnil
        exact ⟨_,_,.ended⟩
      · rw [List.take_of_length_le (Nat.le_succ_of_le hl)] at hmem
        exact ⟨_,_,.openLine hnil hl hmem⟩

/-- One read of a stream, however it is split, answers and leaves what the grammar says, and
nothing else can be derived for that stream. -/
theorem readRecord_iff (pieces : List Octets) (answer : Except RecordError (Option Octets))
    (rest : Octets) :
    ((readRecord ⟨pieces,none⟩).1 = answer ∧ (readRecord ⟨pieces,none⟩).2.octets = rest) ↔
      Reading pieces.flatten answer rest := by
  have hcomplete : ∀ a r, Reading pieces.flatten a r →
      (readRecord ⟨pieces,none⟩).1 = a ∧ (readRecord ⟨pieces,none⟩).2.octets = r := by
    intro a r h
    obtain ⟨left,hread,hleft⟩ := readRecord_of_reading (s := ⟨pieces,none⟩) rfl h
    exact ⟨congrArg Prod.fst hread,hread ▸ hleft⟩
  refine ⟨?_,hcomplete answer rest⟩
  rintro ⟨rfl,rfl⟩
  obtain ⟨a,r,h⟩ := exists_reading pieces.flatten
  obtain ⟨ha,hr⟩ := hcomplete a r h
  rw [ha,hr]
  exact h

end Stream
end ClusterFramework
