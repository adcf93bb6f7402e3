import ClusterFramework.Proofs.Stream.Records

/-! A run of records that breaks off is read up to the last record that is whole. What is
answered next tells whether it broke off between two records, in a length line or in a payload,
unless the source failed there. -/
namespace ClusterFramework
namespace Stream

/-- The answers of the next `n` reads. -/
def reads : Nat → Source → List (Except RecordError (Option Octets)) × Source
  | 0, s => ([],s)
  | n+1, s =>
    let (answer,s) := readRecord s
    let (more,s) := reads n s
    (answer :: more,s)

/-- The payloads whose records lie wholly within the first `cut` octets. -/
def whole : List Octets → Nat → List Octets
  | [], _ => []
  | p :: ps, cut =>
    if (encodeRecord p).length ≤ cut then p :: whole ps (cut-(encodeRecord p).length) else []

/-- What is wrong with a record of which only the first `into` octets are there; nothing
before its first octet. -/
def missing (payload : Octets) (into : Nat) : Option RecordError :=
  let digits := (lengthDigits payload.length).length
  if into = 0 then none
  else if into ≤ digits then some .truncatedLength
  else some (.truncatedRecord payload.length (into-(digits+1)))

/-- What is found wrong behind the last whole record. A failure of the source counts before
anything else. -/
def breach (failure : Option String) (next : Option Octets) (into : Nat) : Option RecordError :=
  (failure.map RecordError.io).or (next.bind (missing · into))

def answerAt : Option RecordError → Except RecordError (Option Octets)
  | none => .ok none
  | some e => .error e

theorem atEnd_answerAt (failure : Option String) (b : Option RecordError) :
    atEnd failure (answerAt b) = (answerAt ((failure.map RecordError.io).or b),⟨[],none⟩) := by
  cases failure <;> rfl

theorem whole_cons_of_le {p : Octets} {ps : List Octets} {cut : Nat}
    (h : (encodeRecord p).length ≤ cut) :
    whole (p :: ps) cut = p :: whole ps (cut-(encodeRecord p).length) := if_pos h

theorem whole_cons_of_lt {p : Octets} {ps : List Octets} {cut : Nat}
    (h : cut < (encodeRecord p).length) : whole (p :: ps) cut = [] := if_neg (Nat.not_le.mpr h)

theorem whole_prefix (payloads : List Octets) (cut : Nat) : whole payloads cut <+: payloads := by
  induction payloads generalizing cut with
  | nil => exact List.prefix_refl []
  | cons p ps ih =>
    rw [whole]
    split
    · exact (List.prefix_cons_inj p).mpr (ih _)
    · exact List.nil_prefix

theorem length_whole_le (payloads : List Octets) (cut : Nat) :
    ((whole payloads cut).flatMap encodeRecord).length ≤ cut := by
  induction payloads generalizing cut with
  | nil => exact Nat.zero_le cut
  | cons p ps ih =>
    rw [whole]
    split
    · have hrest := ih (cut-(encodeRecord p).length)
      rw [List.flatMap_cons,List.length_append]
      omega
    · exact Nat.zero_le cut

theorem lt_length_of_next {payloads : List Octets} {cut : Nat} {p : Octets}
    (h : payloads[(whole payloads cut).length]? = some p) :
    cut < ((whole payloads cut ++ [p]).flatMap encodeRecord).length := by
  induction payloads generalizing cut with
  | nil => cases h
  | cons q ps ih =>
    by_cases hq : (encodeRecord q).length ≤ cut
    · rw [whole_cons_of_le hq] at h ⊢
      have hrest : cut-(encodeRecord q).length < _ := ih h
      rw [List.cons_append,List.flatMap_cons,List.length_append]
      omega
    · rw [whole_cons_of_lt (Nat.not_le.mp hq)] at h ⊢
      cases h
      simpa using hq

theorem readRecord_at_end {s : Source} (hs : s.octets = []) :
    readRecord s = (answerAt (breach s.failure none 0),⟨[],none⟩) := by
  rw [readRecord_of_open_line (by simp [hs]) (by simp [hs]),if_pos hs]
  exact atEnd_answerAt s.failure none

/-- A record of which a part is missing is answered by what is wrong with it, and nothing is
left then. -/
theorem readRecord_of_part {s : Source} {p : Octets} {into : Nat}
    (hs : s.octets = (encodeRecord p).take into) (hi : into < (encodeRecord p).length)
    (hp : p.length ≤ maxRecordSize) :
    readRecord s = (answerAt (breach s.failure (some p) into),⟨[],none⟩) := by
  have hsize : p.length < UInt64.size := Nat.lt_of_le_of_lt hp (by decide)
  have hv := lengthOf?_lengthDigits hsize
  have hdigits := lengthDigits_length_le hsize
  have habsent := newline_not_mem_lengthDigits p.length
  rw [breach,Option.bind_some,missing,← atEnd_answerAt]
  rw [encodeRecord_eq] at hs hi
  generalize lengthDigits p.length = digits at *
  by_cases hin : into ≤ digits.length
  · rw [List.take_append_of_le_length hin] at hs
    have hlen : s.octets.length ≤ maxLengthDigits := by
      rw [hs]
      exact Nat.le_trans (List.length_take_le' into digits) hdigits
    have hpart : newline ∉ s.octets := fun h => habsent (List.mem_of_mem_take (hs ▸ h))
    have hempty : s.octets = [] ↔ into = 0 := by
      rw [hs,List.take_eq_nil_iff,or_iff_left_of_imp]
      rintro rfl
      exact Nat.le_zero.mp hin
    rw [readRecord_of_open_line hpart hlen,if_pos hin]
    by_cases hzero : into = 0
    · rw [if_pos (hempty.mpr hzero),if_pos hzero,answerAt]
    · rw [if_neg (hzero ∘ hempty.mp),if_neg hzero,answerAt]
  · obtain ⟨m,rfl⟩ : ∃ m, into = digits.length+1+m := Nat.exists_eq_add_of_le (Nat.not_le.mp hin)
    have hcut : (digits ++ newline :: p).take (digits.length+1+m) = digits ++ newline :: p.take m := by
      rw [Nat.add_assoc,Nat.add_comm 1 m,List.take_length_add_append,List.take_succ_cons]
    rw [hcut] at hs
    rw [List.length_append,List.length_cons] at hi
    have hm : m < p.length := by omega
    have hreceived : (p.take m).length = m := List.length_take_of_le (Nat.le_of_lt hm)
    have hread := readRecord_of_short hs habsent hdigits hv hp (by rw [hreceived]; exact hm)
    rw [hread,hreceived,if_neg (by omega),if_neg hin,Nat.add_sub_cancel_left,answerAt]

theorem reads_nil (n : Nat) : (reads n ⟨[],none⟩).1 = List.replicate n (.ok none) := by
  induction n with
  | zero => rfl
  | succ n ih =>
    rw [reads,readRecord_nil rfl rfl]
    exact congrArg (.ok none :: ·) ih

theorem reads_of_last {s : Source} {answer : Except RecordError (Option Octets)}
    (h : readRecord s = (answer,⟨[],none⟩)) (n : Nat) :
    (reads n s).1 = [answer].take n ++ List.replicate (n-1) (.ok none) := by
  cases n with
  | zero => rfl
  | succ n =>
    rw [reads,h]
    simp [reads_nil]

def cutAnswers (failure : Option String) (payloads : List Octets) (cut : Nat) :
    List (Except RecordError (Option Octets)) :=
  let done := whole payloads cut
  done.map (fun p => .ok (some p)) ++
    [answerAt (breach failure payloads[done.length]? (cut-(done.flatMap encodeRecord).length))]

theorem cutAnswers_cons_of_le {failure : Option String} {p : Octets} {ps : List Octets} {cut : Nat}
    (h : (encodeRecord p).length ≤ cut) :
    cutAnswers failure (p :: ps) cut =
      .ok (some p) :: cutAnswers failure ps (cut-(encodeRecord p).length) := by
  simp [cutAnswers,whole_cons_of_le h,Nat.sub_sub]

theorem cutAnswers_cons_of_lt {failure : Option String} {p : Octets} {ps : List Octets} {cut : Nat}
    (h : cut < (encodeRecord p).length) :
    cutAnswers failure (p :: ps) cut = [answerAt (breach failure (some p) cut)] := by
  simp [cutAnswers,whole_cons_of_lt h]

theorem reads_cut {payloads : List Octets} (hp : ∀ p ∈ payloads, p.length ≤ maxRecordSize)
    {cut : Nat} {s : Source} (hs : s.octets = (payloads.flatMap encodeRecord).take cut) (n : Nat) :
    (reads n s).1 = (cutAnswers s.failure payloads cut).take n ++
      List.replicate (n-(cutAnswers s.failure payloads cut).length) (.ok none) := by
  induction payloads generalizing cut s n with
  | nil =>
    rw [List.flatMap_nil,List.take_nil] at hs
    exact reads_of_last (readRecord_at_end hs) n
  | cons p ps ih =>
    have hsize := hp p List.mem_cons_self
    by_cases hcut : (encodeRecord p).length ≤ cut
    · cases n with
      | zero => simp [reads]
      | succ n =>
        rw [List.flatMap_cons,List.take_append,List.take_of_length_le hcut] at hs
        obtain ⟨left,hread,hleft,hfailure⟩ := readRecord_encodeRecord hs hsize
        have hrest := ih (fun q hq => hp q (List.mem_cons_of_mem p hq)) hleft n
        rw [hfailure] at hrest
        rw [reads,hread,cutAnswers_cons_of_le hcut]
        simp [hrest]
    · have hlt := Nat.not_le.mp hcut
      rw [List.flatMap_cons,List.take_append_of_le_length (Nat.le_of_lt hlt)] at hs
      rw [cutAnswers_cons_of_lt hlt]
      exact reads_of_last (readRecord_of_part hs hlt hsize) n

def beforeEnd : List (Except RecordError (Option Octets)) → List (Except RecordError Octets)
  | [] => []
  | .ok none :: _ => []
  | .ok (some p) :: answers => .ok p :: beforeEnd answers
  | .error e :: answers => .error e :: beforeEnd answers

theorem collectRecords_eq (n : Nat) (s : Source) :
    collectRecords n s = beforeEnd (reads n s).1 := by
  induction n generalizing s with
  | zero => rfl
  | succ n ih =>
    rw [collectRecords,reads]
    generalize readRecord s = r
    obtain ⟨answer,s⟩ := r
    match answer with
    | .ok none => rfl
    | .ok (some p) => exact congrArg (.ok p :: ·) (ih s)
    | .error e => exact congrArg (.error e :: ·) (ih s)

theorem beforeEnd_append (ps : List Octets) (b : Option RecordError) (n : Nat) :
    beforeEnd (ps.map (fun p => Except.ok (some p)) ++
        ([answerAt b] ++ List.replicate (n+1) (.ok none))) =
      ps.map Except.ok ++ b.toList.map .error := by
  induction ps with
  | nil => cases b <;> rfl
  | cons p ps ih => exact congrArg (.ok p :: ·) ih

/-- Wherever a run of records is cut, and however it is split, the reads answer the payloads of
the records that are whole, then what is wrong with the next one, and from then on the end. No
payload is answered in part. -/
theorem reads_of_cut (payloads : List Octets) (hp : ∀ p ∈ payloads, p.length ≤ maxRecordSize)
    (cut : Nat) (failure : Option String) (pieces : List Octets)
    (hs : pieces.flatten = (payloads.flatMap encodeRecord).take cut) :
    let s : Source := ⟨pieces,failure⟩
    let done := whole payloads cut
    let next := payloads[done.length]?
    let into := cut-(done.flatMap encodeRecord).length
    (done <+: payloads ∧ (done.flatMap encodeRecord).length ≤ cut ∧
        ∀ p, next = some p → cut < ((done ++ [p]).flatMap encodeRecord).length) ∧
      (∀ n, (reads n s).1 =
        (done.map (fun p => Except.ok (some p)) ++ [answerAt (breach failure next into)]).take n ++
          List.replicate (n-(done.length+1)) (.ok none)) ∧
      allRecords s = done.map Except.ok ++ (breach failure next into).toList.map .error ∧
      ∀ n p, Except.ok (some p) ∈ (reads n s).1 → p ∈ done := by
  intro s done next into
  have hreads : ∀ n, (reads n s).1 =
      (done.map (fun p => Except.ok (some p)) ++ [answerAt (breach failure next into)]).take n ++
        List.replicate (n-(done.length+1)) (.ok none) := by
    intro n
    have hcut := reads_cut hp (s := s) hs n
    have hlength : (cutAnswers s.failure payloads cut).length = done.length+1 := by
      simp [cutAnswers,done]
    rwa [hlength] at hcut
  have hdone := whole_prefix payloads cut
  have hfits := length_whole_le payloads cut
  refine ⟨⟨hdone,hfits,fun p => lt_length_of_next⟩,hreads,?_,fun n p hmem => ?_⟩
  · obtain ⟨m,hm⟩ : ∃ m, Decoder.callsToEnd s = done.length+1+(m+1) := by
      have hle : done.length ≤ s.octets.length := by
        obtain ⟨rest,hrest⟩ := hdone
        have hcount := length_le_length_flatMap_encodeRecord done
        rw [Source.octets,hs,← hrest,List.flatMap_append,List.length_take,List.length_append]
        exact Nat.le_trans hcount (Nat.le_min.mpr ⟨hfits,Nat.le_add_right ..⟩)
      exact ⟨s.octets.length-done.length,by rw [Decoder.callsToEnd]; omega⟩
    rw [allRecords,collectRecords_eq,hreads,hm,List.take_of_length_le (by simp),
      Nat.add_sub_cancel_left,List.append_assoc]
    exact beforeEnd_append done (breach failure next into) m
  · rw [hreads,List.mem_append] at hmem
    rcases hmem with hmem | hmem
    · rcases List.mem_append.mp (List.mem_of_mem_take hmem) with hmem | hmem
      · obtain ⟨q,hq,heq⟩ := List.mem_map.mp hmem
        cases heq
        exact hq
      · cases hb : breach failure next into <;> simp [hb,answerAt] at hmem
    · cases List.eq_of_mem_replicate hmem

/-- The third payload lacks its last two octets. -/
def threePayloads : List Octets := [[49,10],[],[7,8,9]]

def brokenOff : List Octets := [[50],[10,49,10,48],[],[10,51,10],[7]]

theorem reads_brokenOff :
    (∀ p ∈ threePayloads, p.length ≤ maxRecordSize) ∧
      brokenOff.flatten = (threePayloads.flatMap encodeRecord).take 9 ∧
      (reads 5 ⟨brokenOff,none⟩).1 = [.ok (some [49,10]),.ok (some []),
        .error (.truncatedRecord 3 1),.ok none,.ok none] ∧
      allRecords ⟨brokenOff,some "reset"⟩ = [.ok [49,10],.ok [],.error (.io "reset")] := by
  have hp : ∀ p ∈ threePayloads, p.length ≤ maxRecordSize := by decide
  have hs : brokenOff.flatten = (threePayloads.flatMap encodeRecord).take 9 := by decide +kernel
  obtain ⟨_,hended,_⟩ := reads_of_cut threePayloads hp 9 none brokenOff hs
  obtain ⟨_,_,hfailed,_⟩ := reads_of_cut threePayloads hp 9 (some "reset") brokenOff hs
  have hbreach : ∀ failure, breach failure threePayloads[(whole threePayloads 9).length]?
      (9-((whole threePayloads 9).flatMap encodeRecord).length) =
        (failure.map RecordError.io).or (some (.truncatedRecord 3 1)) := by
    have hmissing : missing [7,8,9] 3 = some (.truncatedRecord 3 1) := by decide +kernel
    exact fun failure => congrArg (failure.map RecordError.io).or hmissing
  have hdone : whole threePayloads 9 = [[49,10],[]] := by decide +kernel
  rw [hbreach,hdone] at hended hfailed
  exact ⟨hp,hs,hended 5,hfailed⟩

end Stream
end ClusterFramework
