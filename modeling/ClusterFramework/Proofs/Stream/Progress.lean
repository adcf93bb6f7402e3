import ClusterFramework.Proofs.Stream.Grammar
import ClusterFramework.Proofs.Stream.Truncation

/-! Reading goes on to the end. Whatever the octets of a stream are, no error in the framing leaves
the source where it was, so that reads which do not stop at errors take the stream apart piece by
piece, and one of them finds its end. -/
namespace ClusterFramework
namespace Stream

inductive Framed : Except RecordError (Option Octets) → Prop
  | record (payload : Octets) : Framed (.ok (some payload))
  | invalidLength (line : Octets) : Framed (.error (.invalidLength line))
  | truncatedLength : Framed (.error .truncatedLength)
  | truncatedRecord (expected received : Nat) :
    Framed (.error (.truncatedRecord expected received))
  | recordTooLarge (size : Nat) : Framed (.error (.recordTooLarge size))

def longestPiece : Nat := 21+maxRecordSize

/-- What a read answers, the piece of the stream that it takes, and what it leaves. -/
inductive Taking (s : Source) : Except RecordError (Option Octets) → Octets → Source → Prop
  | ended (hs : s.octets = []) (hf : s.failure = none) : Taking s (.ok none) [] ⟨[],none⟩
  | failed {reason : String} (hf : s.failure = some reason)
      (hmost : s.octets.length ≤ longestPiece) :
      Taking s (.error (.io reason)) s.octets ⟨[],none⟩
  | framed {answer : Except RecordError (Option Octets)} {piece : Octets} {left : Source}
      (ha : Framed answer) (hs : s.octets = piece ++ left.octets) (hf : left.failure = s.failure)
      (hpos : 0 < piece.length) (hmost : piece.length ≤ longestPiece) : Taking s answer piece left

theorem Reading.exists_piece {b rest : Octets} {answer : Except RecordError (Option Octets)}
    (h : Reading b answer rest) (hne : b ≠ []) :
    Framed answer ∧ ∃ piece, b = piece ++ rest ∧ 0 < piece.length ∧
      piece.length ≤ longestPiece := by
  have hline : ∀ {line : Octets}, line.length ≤ 20 →
      (line ++ [newline]).length ≤ longestPiece := by
    intro line hl
    rw [List.length_append,List.length_singleton,longestPiece]
    omega
  cases h with
  | ended => exact absurd rfl hne
  | @record line payload rest hl hd hp =>
    refine ⟨.record payload,line ++ newline :: payload,by simp,by simp,?_⟩
    rw [List.length_append,List.length_cons,longestPiece]
    omega
  | openLine hb hl hn =>
    exact ⟨.truncatedLength,b,(List.append_nil b).symm,List.length_pos_iff.mpr hb,
      Nat.le_trans hl (by decide)⟩
  | @overlong line rest hl hn =>
    exact ⟨.invalidLength line,line,rfl,by omega,hl ▸ by decide⟩
  | @unusable line rest hl hn hu =>
    exact ⟨.invalidLength line,line ++ [newline],by simp,by simp,hline hl⟩
  | @tooLarge line rest n hl hd hp hlt =>
    exact ⟨.recordTooLarge n,line ++ [newline],by simp,by simp,hline hl⟩
  | @short line received n hl hd hp hshort =>
    refine ⟨.truncatedRecord n received.length,_,(List.append_nil _).symm,by simp,?_⟩
    rw [List.length_append,List.length_cons,longestPiece]
    omega

theorem exists_taking (s : Source) :
    ∃ piece, Taking s (readRecord s).1 piece (readRecord s).2 := by
  by_cases hnil : s.octets = []
  · rw [readRecord_at_end hnil]
    cases hf : s.failure with
    | none => exact ⟨[],.ended hnil hf⟩
    | some reason => exact ⟨s.octets,.failed hf (by simp [hnil])⟩
  · obtain ⟨answer,rest,h⟩ := exists_reading s.octets
    obtain ⟨ha,piece,hs,hpos,hmost⟩ := h.exists_piece hnil
    rcases readRecord_of_rule h with ⟨left,hread,rfl,hf⟩ | ⟨rfl,hread⟩
    · rw [hread]
      exact ⟨piece,.framed ha hs hf hpos hmost⟩
    · rw [hread]
      cases hf : s.failure with
      | none => exact ⟨piece,.framed ha hs hf.symm hpos hmost⟩
      | some reason =>
        rw [List.append_nil] at hs
        exact ⟨s.octets,.failed hf (hs ▸ hmost)⟩

/-- What there is still to be read: the octets and the failure. -/
def Source.remaining (s : Source) : Nat := s.octets.length+if s.failure.isSome then 1 else 0

namespace Taking

variable {s left : Source} {answer : Except RecordError (Option Octets)} {piece : Octets}

theorem octets_eq (h : Taking s answer piece left) : s.octets = piece ++ left.octets := by
  cases h with
  | ended hs hf => exact hs
  | failed hf hmost => exact (List.append_nil _).symm
  | framed ha hs hf hpos hmost => exact hs

theorem length_le (h : Taking s answer piece left) : piece.length ≤ longestPiece := by
  cases h with
  | ended hs hf => exact Nat.zero_le _
  | failed hf hmost => exact hmost
  | framed ha hs hf hpos hmost => exact hmost

theorem length_pos (h : Taking s answer piece left) (ha : Framed answer) : 0 < piece.length := by
  cases h with
  | ended hs hf => cases ha
  | failed hf hmost => cases ha
  | framed ha hs hf hpos hmost => exact hpos

theorem at_end (h : Taking s answer piece left) (hend : answer = .ok none) :
    s.octets = [] ∧ s.failure = none := by
  cases h with
  | ended hs hf => exact ⟨hs,hf⟩
  | failed hf hmost => cases hend
  | framed ha hs hf hpos hmost => subst hend; cases ha

/-- Every read but one that finds the end takes an octet or the failure. -/
theorem remaining_lt (h : Taking s answer piece left) (hne : answer ≠ .ok none) :
    left.remaining < s.remaining := by
  cases h with
  | ended hs hf => exact absurd rfl hne
  | failed hf hmost => simp [Source.remaining,Source.octets,hf]
  | framed ha hs hf hpos hmost =>
    rw [Source.remaining,Source.remaining,hs,hf,List.length_append]
    omega

end Taking

/-- Reads until one finds the end: what each of those before it answers, and the piece that it
takes. -/
inductive Course : Source → List (Except RecordError (Option Octets) × Octets) → Prop
  | ended {s : Source} (hs : s.octets = []) (hf : s.failure = none) : Course s []
  | read {s : Source} {piece : Octets} {calls : List (Except RecordError (Option Octets) × Octets)}
      (h : Taking s (readRecord s).1 piece (readRecord s).2) (hne : (readRecord s).1 ≠ .ok none)
      (hrest : Course (readRecord s).2 calls) : Course s (((readRecord s).1,piece) :: calls)

theorem exists_course (s : Source) : ∃ calls, Course s calls := by
  induction hm : s.remaining using Nat.strong_induction_on generalizing s with
  | _ m ih =>
    subst hm
    obtain ⟨piece,h⟩ := exists_taking s
    by_cases hend : (readRecord s).1 = .ok none
    · obtain ⟨hs,hf⟩ := h.at_end hend
      exact ⟨[],.ended hs hf⟩
    · obtain ⟨calls,hrest⟩ := ih _ (h.remaining_lt hend) _ rfl
      exact ⟨_,.read h hend hrest⟩

theorem reads_ended {s : Source} (hs : s.octets = []) (hf : s.failure = none) (n : Nat) :
    (reads n s).1 = List.replicate n (.ok none) ∧ (reads n s).2.octets = [] := by
  induction n generalizing s with
  | zero => exact ⟨rfl,hs⟩
  | succ n ih =>
    obtain ⟨hanswers,hleft⟩ := ih (s := ⟨[],none⟩) rfl rfl
    rw [reads,readRecord_nil hs hf]
    exact ⟨congrArg (.ok none :: ·) hanswers,hleft⟩

theorem beforeEnd_append_ends (answers : List (Except RecordError (Option Octets))) (n : Nat) :
    beforeEnd (answers ++ List.replicate n (.ok none)) = beforeEnd answers := by
  induction answers with
  | nil => cases n <;> rfl
  | cons answer answers ih =>
    match answer with
    | .ok none => rfl
    | .ok (some p) => exact congrArg (.ok p :: ·) ih
    | .error e => exact congrArg (.error e :: ·) ih

namespace Course

variable {s : Source} {calls : List (Except RecordError (Option Octets) × Octets)}

theorem flatten_eq (h : Course s calls) : (calls.map Prod.snd).flatten = s.octets := by
  induction h with
  | ended hs hf => exact hs.symm
  | read h hne hrest ih => rw [List.map_cons,List.flatten_cons,ih,← h.octets_eq]

theorem length_le (h : Course s calls) : calls.length ≤ s.remaining := by
  induction h with
  | ended hs hf => exact Nat.zero_le _
  | read h hne hrest ih => exact Nat.lt_of_le_of_lt ih (h.remaining_lt hne)

theorem answers_eq (h : Course s calls) (n : Nat) :
    (reads (calls.length+n) s).1 = calls.map Prod.fst ++ List.replicate n (.ok none) := by
  induction h with
  | ended hs hf => simpa using (reads_ended hs hf n).1
  | read h hne hrest ih =>
    rw [List.length_cons,Nat.add_right_comm,reads]
    exact congrArg (_ :: ·) ih

theorem left_eq (h : Course s calls) (n : Nat) :
    (reads n s).2.octets = ((calls.drop n).map Prod.snd).flatten := by
  induction h generalizing n with
  | ended hs hf => simpa using (reads_ended hs hf n).2
  | read h hne hrest ih =>
    cases n with
    | zero => exact (Course.read h hne hrest).flatten_eq.symm
    | succ n => exact ih n

theorem exists_framed (h : Course s calls) :
    ∃ answers, (∀ answer ∈ answers, Framed answer) ∧
      calls.map Prod.fst = answers ++ (s.failure.map fun reason => .error (.io reason)).toList := by
  induction h with
  | ended hs hf => exact ⟨[],nofun,by simp [hf]⟩
  | @read s piece calls h hne hrest ih =>
    obtain ⟨answers,hframed,hanswers⟩ := ih
    have hlength := hrest.length_le
    generalize (readRecord s).1 = answer at h hne ⊢
    generalize (readRecord s).2 = left at h hlength hanswers
    cases h with
    | ended hs hf => exact absurd rfl hne
    | failed hf hmost =>
      have hnil : calls = [] := List.eq_nil_of_length_eq_zero (Nat.le_zero.mp hlength)
      exact ⟨[],nofun,by simp [hnil,hf]⟩
    | framed ha hs hf hpos hmost =>
      refine ⟨answer :: answers,?_,by simp [hanswers,hf]⟩
      rintro a (_ | ⟨_,hmem⟩)
      · exact ha
      · exact hframed a hmem

theorem piece_of_mem (h : Course s calls) {call : Except RecordError (Option Octets) × Octets}
    (hcall : call ∈ calls) :
    call.2.length ≤ longestPiece ∧ (Framed call.1 → 0 < call.2.length) := by
  induction h with
  | ended hs hf => cases hcall
  | read h hne hrest ih =>
    rcases List.mem_cons.mp hcall with rfl | hmem
    · exact ⟨h.length_le,h.length_pos⟩
    · exact ih hmem

theorem allRecords_eq (h : Course s calls) : allRecords s = beforeEnd (calls.map Prod.fst) := by
  have hle : calls.length ≤ s.octets.length+1 := by
    refine Nat.le_trans h.length_le (Nat.add_le_add_left ?_ _)
    split <;> decide
  obtain ⟨n,hn⟩ : ∃ n, Decoder.callsToEnd s = calls.length+n :=
    Nat.exists_eq_add_of_le (Nat.le_succ_of_le hle)
  rw [allRecords,collectRecords_eq,hn,h.answers_eq,beforeEnd_append_ends]

end Course

/-- Reads that do not stop at errors come to the end of any stream, however it is split. They take
it apart in order; a record or an error in the framing costs an octet at least and never more than
a length line and a payload; and behind a failure, which counts as one more read, there is nothing
but the end. -/
theorem reads_to_end (s : Source) :
    ∃ calls : List (Except RecordError (Option Octets) × Octets),
      (∀ n, (reads (calls.length+n) s).1 =
        calls.map Prod.fst ++ List.replicate n (.ok none)) ∧
      (∃ answers, (∀ answer ∈ answers, Framed answer) ∧
        calls.map Prod.fst =
          answers ++ (s.failure.map fun reason => .error (.io reason)).toList) ∧
      calls.length ≤ s.octets.length+(if s.failure.isSome then 1 else 0) ∧
      (calls.map Prod.snd).flatten = s.octets ∧
      (∀ n, (reads n s).2.octets = ((calls.drop n).map Prod.snd).flatten) ∧
      (∀ call ∈ calls, call.2.length ≤ 21+maxRecordSize ∧
        (Framed call.1 → 1 ≤ call.2.length)) ∧
      allRecords s = beforeEnd (calls.map Prod.fst) := by
  obtain ⟨calls,h⟩ := exists_course s
  exact ⟨calls,h.answers_eq,h.exists_framed,h.length_le,h.flatten_eq,h.left_eq,
    fun call => h.piece_of_mem,h.allRecords_eq⟩

/-- Where every octet is an error of its own, so many reads are needed. -/
example : (reads 4 ⟨[[10],[10]],some "reset"⟩).1 =
    [.error (.invalidLength []),.error (.invalidLength []),.error (.io "reset"),.ok none] := by
  decide +kernel

end Stream
end ClusterFramework
