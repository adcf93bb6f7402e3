import ClusterFramework.Retry.Policy
import Mathlib.Algebra.BigOperators.Intervals

/-! An operation run under a policy, round by round. Nothing but a success or the end of the
retries stops the rounds, and one of the two comes; how many calls there were then, and how long
the waits between them, depends only on the first success and on the policy. -/
namespace ClusterFramework
namespace RetryPolicy

variable {ε α : Type} {answer : Nat → Except ε α} {p : RetryPolicy} {left done : Nat}

def retried (p : RetryPolicy) : RetryPolicy := { p with totalRetries := p.totalRetries+1 }

/-- The rounds from the one after `done` retries on, with no bound on how many there are: each
calls the operation, and all but the last wait and count a retry. -/
inductive Rounds (answer : Nat → Except ε α) : Nat → RetryPolicy → Outcome ε α → Prop
  | succeed {done : Nat} {p : RetryPolicy} {a : α} : answer done = .ok a →
      Rounds answer done p ⟨.ok a,done+1,p,[]⟩
  | giveUp {done : Nat} {p : RetryPolicy} {e : ε} : answer done = .error e →
      p.maxRetries.toNat ≤ done → Rounds answer done p ⟨.error e,done+1,p,[]⟩
  | retry {done : Nat} {p : RetryPolicy} {e : ε} {o : Outcome ε α} : answer done = .error e →
      done < p.maxRetries.toNat → Rounds answer (done+1) p.retried o →
        Rounds answer done p { o with waits := p.delay (done+1) :: o.waits }

theorem runFrom_of_ok {a : α} (h : answer done = .ok a) (left : Nat) (p : RetryPolicy) :
    runFrom answer left done p = ⟨.ok a,done+1,p,[]⟩ := by
  cases left <;> simp [runFrom,h]

theorem runFrom_zero_of_error {e : ε} (h : answer done = .error e) (p : RetryPolicy) :
    runFrom answer 0 done p = ⟨.error e,done+1,p,[]⟩ := by
  simp [runFrom,h]

theorem runFrom_succ_of_error {e : ε} (h : answer done = .error e) (left : Nat)
    (p : RetryPolicy) :
    runFrom answer (left+1) done p =
      let o := runFrom answer left (done+1) p.retried
      { o with waits := p.delay (done+1) :: o.waits } := by
  simp [runFrom,h,retried]

theorem rounds_runFrom (h : done+left = p.maxRetries.toNat) :
    Rounds answer done p (runFrom answer left done p) := by
  induction left generalizing done p with
  | zero =>
    cases hanswer : answer done with
    | ok a =>
      rw [runFrom_of_ok hanswer]
      exact .succeed hanswer
    | error e =>
      rw [runFrom_zero_of_error hanswer]
      exact .giveUp hanswer (Nat.le_of_eq h.symm)
  | succ left ih =>
    cases hanswer : answer done with
    | ok a =>
      rw [runFrom_of_ok hanswer]
      exact .succeed hanswer
    | error e =>
      rw [runFrom_succ_of_error hanswer]
      have hrest : done+1+left = p.retried.maxRetries.toNat := by
        simp only [retried]
        omega
      exact .retry hanswer (by omega) (ih hrest)

/-- They do not end in any other way. -/
theorem Rounds.eq_runFrom {o : Outcome ε α} (h : Rounds answer done p o) :
    o = runFrom answer (p.maxRetries.toNat-done) done p := by
  induction h with
  | succeed hanswer => exact (runFrom_of_ok hanswer _ _).symm
  | giveUp hanswer hmax =>
    rw [Nat.sub_eq_zero_of_le hmax,runFrom_zero_of_error hanswer]
  | @retry done p e o hanswer hmax _ ih =>
    have hleft : p.maxRetries.toNat-done = p.retried.maxRetries.toNat-(done+1)+1 := by
      simp only [retried]
      omega
    rw [hleft,runFrom_succ_of_error hanswer,← ih]

theorem rounds_iff {o : Outcome ε α} : Rounds answer 0 p o ↔ o = p.run answer := by
  constructor
  · exact Rounds.eq_runFrom
  · rintro rfl
    exact rounds_runFrom (Nat.zero_add _)

/-- What comes of a run with `n` retries from the round after `done` on. -/
structure Retried (answer : Nat → Except ε α) (left done : Nat) (p : RetryPolicy)
    (o : Outcome ε α) (n : Nat) : Prop where
  le : n ≤ left
  failed : ∀ i < n, ∃ e, answer (done+i) = .error e
  result : o.result = answer (done+n)
  stopped : n < left → ∃ a, answer (done+n) = .ok a
  calls : o.calls = done+n+1
  policy : o.policy = { p with totalRetries := p.totalRetries+UInt32.ofNat n }
  waits : o.waits = (List.range' (done+1) n).map p.delay

theorem Retried.of_ok {a : α} (h : answer done = .ok a) (left : Nat) (p : RetryPolicy) :
    Retried answer left done p ⟨.ok a,done+1,p,[]⟩ 0 where
  le := Nat.zero_le left
  failed := nofun
  result := h.symm
  stopped := fun _ => ⟨a,h⟩
  calls := rfl
  policy := by simp
  waits := rfl

theorem exists_retried (answer : Nat → Except ε α) (left done : Nat) (p : RetryPolicy) :
    ∃ n, Retried answer left done p (runFrom answer left done p) n := by
  induction left generalizing done p with
  | zero =>
    cases hanswer : answer done with
    | ok a =>
      rw [runFrom_of_ok hanswer]
      exact ⟨0,.of_ok hanswer 0 p⟩
    | error e =>
      rw [runFrom_zero_of_error hanswer]
      exact ⟨0,Nat.le_refl 0,nofun,hanswer.symm,nofun,rfl,by simp,rfl⟩
  | succ left ih =>
    cases hanswer : answer done with
    | ok a =>
      rw [runFrom_of_ok hanswer]
      exact ⟨0,.of_ok hanswer (left+1) p⟩
    | error e =>
      obtain ⟨n,hn⟩ := ih (done+1) p.retried
      have hnext (i : Nat) : done+1+i = done+(i+1) := by omega
      rw [runFrom_succ_of_error hanswer]
      refine ⟨n+1,Nat.succ_le_succ hn.le,fun i hi => ?_,?_,fun hlt => ?_,?_,?_,?_⟩
      · cases i with
        | zero => exact ⟨e,hanswer⟩
        | succ i => exact hnext i ▸ hn.failed i (Nat.lt_of_succ_lt_succ hi)
      · exact hnext n ▸ hn.result
      · exact hnext n ▸ hn.stopped (Nat.lt_of_succ_lt_succ hlt)
      · rw [← hnext n]
        exact hn.calls
      · dsimp only
        rw [hn.policy]
        simp [retried,UInt32.ofNat_add,UInt32.add_assoc,UInt32.add_comm 1]
      · dsimp only
        rw [hn.waits,List.range'_succ,List.map_cons]
        rfl

theorem Retried.eq_of_ok {n k : Nat} {a : α} {o : Outcome ε α} (h : Retried answer left 0 p o n)
    (hk : k ≤ left) (ha : answer k = .ok a) (hbefore : ∀ i < k, ∃ e, answer i = .error e) :
    n = k := by
  rcases Nat.lt_trichotomy n k with hlt | heq | hgt
  · obtain ⟨b,hb⟩ := h.stopped (by omega)
    obtain ⟨e,he⟩ := hbefore n hlt
    rw [Nat.zero_add,he] at hb
    cases hb
  · exact heq
  · obtain ⟨e,he⟩ := h.failed k hgt
    rw [Nat.zero_add,ha] at he
    cases he

theorem Retried.eq_of_error {n : Nat} {o : Outcome ε α} (h : Retried answer left 0 p o n)
    (hall : ∀ i ≤ left, ∃ e, answer i = .error e) : n = left := by
  by_contra hne
  have hle := h.le
  obtain ⟨b,hb⟩ := h.stopped (by omega)
  obtain ⟨e,he⟩ := hall n hle
  rw [Nat.zero_add,he] at hb
  cases hb

theorem nanos_delay (p : RetryPolicy) (attempt : Nat) : (p.delay attempt).nanos =
    if p.backoff then min (p.retryTime.nanos*min (2^(attempt-1)) (2^32-1)) Duration.longest.nanos
    else p.retryTime.nanos := by
  rw [delay]
  split
  · rw [Duration.nanos_times,wordPower_eq]
    rfl
  · rfl

theorem nanos_delay_mono (p : RetryPolicy) {i j : Nat} (h : i ≤ j) :
    (p.delay i).nanos ≤ (p.delay j).nanos := by
  rw [nanos_delay,nanos_delay]
  split
  · have hpower : 2^(i-1) ≤ 2^(j-1) := Nat.pow_le_pow_right (by decide) (by omega)
    have hfactor : min (2^(i-1)) (2^32-1) ≤ min (2^(j-1)) (2^32-1) := by omega
    have hproduct := Nat.mul_le_mul_left p.retryTime.nanos hfactor
    omega
  · exact Nat.le_refl _

theorem pairwise_delay (p : RetryPolicy) (n : Nat) :
    ((List.range' 1 n).map p.delay).Pairwise fun d e => d.nanos ≤ e.nanos := by
  rw [List.pairwise_map]
  exact List.pairwise_le_range'.imp fun h => p.nanos_delay_mono h

theorem sum_delay (p : RetryPolicy) (n : Nat) :
    (((List.range' 1 n).map p.delay).map Duration.nanos).sum =
      ∑ i ∈ Finset.Icc 1 n, (p.delay i).nanos := by
  induction n with
  | zero => rfl
  | succ n ih =>
    rw [Finset.sum_Icc_succ_top (by omega),← ih,List.range'_1_concat]
    simp [Nat.add_comm]

theorem toNat_add_ofNat {a b : UInt32} {n : Nat} (hn : n ≤ b.toNat)
    (h : a.toNat+b.toNat < 2^32-1) : (a+UInt32.ofNat n).toNat = a.toNat+n := by
  rw [UInt32.toNat_add,UInt32.toNat_ofNat_of_lt' (by simp [UInt32.size]; omega)]
  omega

/-- If the first success comes before the retries are used up, the operation is called up to it,
and otherwise once more than there are retries; the last call gives the result. Each call but the
first counts a retry and comes after a wait, and no wait is shorter than one before it. -/
theorem run_decided (p : RetryPolicy) (answer : Nat → Except ε α)
    (h : p.totalRetries.toNat+p.maxRetries.toNat < 2^32-1) :
    let o := p.run answer
    (∀ o', Rounds answer 0 p o' ↔ o' = o) ∧
      (∀ k a, k ≤ p.maxRetries.toNat → answer k = .ok a → (∀ i < k, ∃ e, answer i = .error e) →
        o.calls = k+1 ∧ o.result = .ok a) ∧
      ((∀ i ≤ p.maxRetries.toNat, ∃ e, answer i = .error e) →
        o.calls = p.maxRetries.toNat+1 ∧ o.result = answer p.maxRetries.toNat) ∧
      o.policy = { p with totalRetries := o.policy.totalRetries } ∧
      o.policy.totalRetries.toNat = p.totalRetries.toNat+(o.calls-1) ∧
      o.waits.length = o.calls-1 ∧
      (o.waits.map Duration.nanos).sum = (∑ i ∈ Finset.Icc 1 (o.calls-1),
        if p.backoff then min (p.retryTime.nanos*min (2^(i-1)) (2^32-1)) Duration.longest.nanos
        else p.retryTime.nanos) ∧
      o.waits.Pairwise fun d e => d.nanos ≤ e.nanos := by
  intro o
  obtain ⟨n,hn⟩ : ∃ n, Retried answer p.maxRetries.toNat 0 p o n := exists_retried ..
  have hcalls : o.calls = n+1 := hn.calls.trans (by omega)
  have hresult : o.result = answer n := hn.result.trans (by rw [Nat.zero_add])
  have hwaits : o.waits = (List.range' 1 n).map p.delay := hn.waits
  refine ⟨fun o' => rounds_iff,fun k a hk ha hbefore => ?_,fun hall => ?_,?_,?_,?_,?_,?_⟩
  · obtain rfl : n = k := hn.eq_of_ok hk ha hbefore
    exact ⟨hcalls,hresult.trans ha⟩
  · have hmax : n = p.maxRetries.toNat := hn.eq_of_error hall
    exact ⟨hmax ▸ hcalls,hmax ▸ hresult⟩
  · rw [hn.policy]
  · rw [hn.policy,hcalls]
    exact toNat_add_ofNat hn.le h
  · rw [hwaits,hcalls,List.length_map,List.length_range',Nat.add_sub_cancel]
  · simp only [hwaits,hcalls,Nat.add_sub_cancel,sum_delay,nanos_delay]
  · rw [hwaits]
    exact p.pairwise_delay n

/-- Its second wait would be longer than any duration. -/
def patient : RetryPolicy :=
  { name := "patient"
    maxRetries := 3
    totalRetries := 7
    retryTime := ⟨2^63*10^9,by decide⟩
    backoff := true }

theorem run_patient :
    patient.totalRetries.toNat+patient.maxRetries.toNat < 2^32-1 ∧
      let o := patient.run fun n => if n < 2 then .error (n+1) else .ok (10*n)
      o.calls = 3 ∧ o.result = .ok 20 ∧ o.policy.totalRetries.toNat = 9 ∧
        (o.waits.map Duration.nanos).sum = 2^63*10^9+Duration.longest.nanos := by
  have hsmall : patient.totalRetries.toNat+patient.maxRetries.toNat < 2^32-1 := by decide
  obtain ⟨_,hsuccess,_,_,htotal,_,hsum,_⟩ :=
    run_decided patient (fun n => if n < 2 then .error (n+1) else .ok (10*n)) hsmall
  obtain ⟨hcalls,hresult⟩ := hsuccess 2 20 (by decide) rfl fun i hi => ⟨i+1,if_pos hi⟩
  rw [hcalls] at htotal hsum
  exact ⟨hsmall,hcalls,hresult,htotal,hsum.trans (by decide)⟩

end RetryPolicy
end ClusterFramework
