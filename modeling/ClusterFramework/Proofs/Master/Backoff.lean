import ClusterFramework.Proofs.Master.Posting
import Mathlib.Data.List.Iterate

/-! How long a scheduler waits between its attempts to subscribe. Each wait is made from the one
before, so the first decides all of them. The longest wait of the settings bounds every wait but
the first, which is taken from the settings as it is: the waits double up to their bound if they
start below it, and fall down to it if they do not. -/
namespace ClusterFramework
namespace Scheduler

open Master

def failures (answers : List Answer) : Nat :=
  (answers.takeWhile fun a => a.streamId?.isNone).length

variable (s : Scheduler)

theorem waits_subscribeFrom (wait : Duration) (answers : List Answer) :
    (s.subscribeFrom wait answers).waits = List.iterate s.nextBackoff wait (failures answers) := by
  induction answers generalizing s wait with
  | nil => rfl
  | cons a answers ih =>
    rw [subscribeFrom,failures,List.takeWhile_cons]
    cases h : a.streamId? with
    | some id =>
      obtain ⟨r,posts,log,hattempt⟩ := s.attempt_of_some h
      rw [hattempt]
      rfl
    | none =>
      obtain ⟨e,posts,log,hattempt⟩ := s.attempt_of_none h
      rw [hattempt]
      dsimp only
      rw [ih]
      rfl

theorem waits_subscribe (answers : List Answer) :
    (s.subscribe answers).waits = List.iterate s.nextBackoff s.backoff (failures answers) :=
  s.waits_subscribeFrom s.backoff answers

section

variable {s}

theorem iterate_nextBackoff_of_none (h : s.backoffMax = none) (n : Nat) (wait : Duration) :
    s.nextBackoff^[n] wait = wait := by
  have hfixed : s.nextBackoff wait = wait := by rw [nextBackoff,h]
  exact Function.iterate_fixed hfixed n

theorem nanos_nextBackoff_of_some {longest : Duration} (h : s.backoffMax = some longest)
    (wait : Duration) : (s.nextBackoff wait).nanos = min (wait.nanos*2) longest.nanos := by
  have hle := longest.nanos_le_longest
  rw [nextBackoff,h]
  dsimp only
  rw [Duration.nanos_shorter,Duration.nanos_times]
  omega

theorem nanos_iterate_nextBackoff {longest : Duration} (h : s.backoffMax = some longest) (n : Nat)
    (wait : Duration) :
    (s.nextBackoff^[n+1] wait).nanos = min (wait.nanos*2^(n+1)) longest.nanos := by
  induction n with
  | zero => simpa using nanos_nextBackoff_of_some h wait
  | succ n ih =>
    rw [Function.iterate_succ_apply',nanos_nextBackoff_of_some h,ih,pow_succ 2 (n+1),
      ← Nat.mul_assoc]
    omega

end

theorem getElem?_waits (answers : List Answer) (n : Nat) (w : Duration) :
    (s.subscribe answers).waits[n]? = some w ↔
      n < failures answers ∧ s.nextBackoff^[n] s.backoff = w := by
  rw [waits_subscribe]
  by_cases hn : n < failures answers
  · rw [List.getElem?_iterate _ _ _ _ hn,Option.some_inj]
    exact (and_iff_right hn).symm
  · rw [List.getElem?_eq_none (by rw [List.length_iterate]; omega)]
    simp [hn]

/-- Waits that double from the first, each but the first up to the longest. -/
def Doubling (first longest : Duration) (waits : List Duration) : Prop :=
  ∀ n w, waits[n]? = some w →
    w.nanos = if n = 0 then first.nanos else min (first.nanos*2^n) longest.nanos

theorem doubling_waits {longest : Duration} (h : s.backoffMax = some longest)
    (answers : List Answer) : Doubling s.backoff longest (s.subscribe answers).waits := by
  intro n w hw
  obtain ⟨_,rfl⟩ := (s.getElem?_waits answers n w).1 hw
  cases n with
  | zero => rfl
  | succ n => exact nanos_iterate_nextBackoff h n s.backoff

namespace Doubling

variable {first longest : Duration} {waits : List Duration}

theorem nanos_head {w : Duration} (h : Doubling first longest (w :: waits)) :
    w.nanos = first.nanos := h 0 w rfl

theorem nanos_of_le (h : Doubling first longest waits) (hle : first.nanos ≤ longest.nanos)
    {n : Nat} {w : Duration} (hw : waits[n]? = some w) :
    w.nanos = min (first.nanos*2^n) longest.nanos := by
  rw [h n w hw]
  split
  · subst n; omega
  · rfl

theorem forall_eq_iff (h : Doubling first longest waits) :
    (∀ n w, waits[n]? = some w → w.nanos = min (first.nanos*2^n) longest.nanos) ↔
      waits = [] ∨ first.nanos ≤ longest.nanos := by
  refine ⟨fun heq => ?_,?_⟩
  · cases waits with
    | nil => exact .inl rfl
    | cons w waits =>
      have hfirst := heq 0 w rfl
      rw [h.nanos_head,pow_zero] at hfirst
      exact .inr (by omega)
  · rintro (rfl | hle) n w hw
    · simp at hw
    · exact h.nanos_of_le hle hw

theorem forall_le_iff (h : Doubling first longest waits) :
    (∀ w ∈ waits, w.nanos ≤ longest.nanos) ↔ waits = [] ∨ first.nanos ≤ longest.nanos := by
  refine ⟨fun hbound => ?_,?_⟩
  · cases waits with
    | nil => exact .inl rfl
    | cons w waits => exact .inr (h.nanos_head ▸ hbound w List.mem_cons_self)
  · rintro (rfl | hle) w hw
    · simp at hw
    · obtain ⟨n,hn⟩ := List.mem_iff_getElem?.1 hw
      rw [h.nanos_of_le hle hn]
      exact min_le_right _ _

/-- A second wait is never longer than the longest, so a first one that is cannot stand before
it. -/
theorem pairwise_iff (h : Doubling first longest waits) :
    waits.Pairwise (fun v w => v.nanos ≤ w.nanos) ↔
      waits.length ≤ 1 ∨ first.nanos ≤ longest.nanos := by
  refine ⟨fun hsorted => ?_,?_⟩
  · match waits, hsorted with
    | [], _ => exact .inl (by simp)
    | [w], _ => exact .inl (by simp)
    | v :: w :: waits, hsorted =>
      have hvw := List.rel_of_pairwise_cons hsorted (List.mem_cons_self (a := w))
      have hw : w.nanos = min (first.nanos*2^1) longest.nanos := h 1 w rfl
      rw [h.nanos_head] at hvw
      exact .inr (by omega)
  · rintro (hlength | hle)
    · match waits, hlength with
      | [], _ => exact .nil
      | [w], _ => exact List.pairwise_singleton _ w
    · rw [List.pairwise_iff_getElem]
      intro i j hi hj hij
      rw [h.nanos_of_le hle (List.getElem?_eq_getElem hi),
        h.nanos_of_le hle (List.getElem?_eq_getElem hj)]
      have hpow : first.nanos*2^i ≤ first.nanos*2^j :=
        Nat.mul_le_mul_left _ (Nat.pow_le_pow_right (by decide) hij.le)
      omega

end Doubling

/-- With a longest wait, the `n`-th is `2^n` times the first or the longest just if the first is
no longer than that; only then is the longest wait a bound, and only then do the waits never fall,
if there are two of them. -/
theorem waits_of_subscribe (answers : List Answer) :
    let waits := (s.subscribe answers).waits
    waits.length = failures answers ∧
    (s.backoffMax = none → ∀ w ∈ waits, w = s.backoff) ∧
    ∀ longest, s.backoffMax = some longest →
      (∀ n w, waits[n]? = some w → w.nanos =
        if n = 0 then s.backoff.nanos else min (s.backoff.nanos*2^n) longest.nanos) ∧
      ((∀ n w, waits[n]? = some w → w.nanos = min (s.backoff.nanos*2^n) longest.nanos) ↔
        waits = [] ∨ s.backoff.nanos ≤ longest.nanos) ∧
      ((∀ w ∈ waits, w.nanos ≤ longest.nanos) ↔
        waits = [] ∨ s.backoff.nanos ≤ longest.nanos) ∧
      (waits.Pairwise (fun v w => v.nanos ≤ w.nanos) ↔
        waits.length ≤ 1 ∨ s.backoff.nanos ≤ longest.nanos) := by
  refine ⟨?length,?fixed,?doubling⟩
  case length => rw [waits_subscribe,List.length_iterate]
  case fixed =>
    intro hnone w hw
    obtain ⟨n,hn⟩ := List.mem_iff_getElem?.1 hw
    obtain ⟨_,rfl⟩ := (s.getElem?_waits answers n w).1 hn
    exact iterate_nextBackoff_of_none hnone n s.backoff
  case doubling =>
    intro longest hsome
    have h := s.doubling_waits hsome answers
    exact ⟨h,h.forall_eq_iff,h.forall_le_iff,h.pairwise_iff⟩

/-- Five milliseconds at first, though no wait is to be longer than two. -/
def impatient : FrameworkSettings :=
  { name := "fw", reconnectBackoff := 5, reconnectBackoffMax := 2 }

def thirdTime : List Answer :=
  [.response { status := 500 },.response { status := 500 },opening "s"]

theorem waits_of_impatient : ∃ s, Scheduler.ofSettings impatient = .ok s ∧
    s.backoffMax = some (.ofMillis 2) ∧
    ∃ waits, (s.subscribe thirdTime).waits = waits ∧ waits = [.ofMillis 5,.ofMillis 2] ∧
      ¬ (∀ n w, waits[n]? = some w →
        w.nanos = min (s.backoff.nanos*2^n) (Duration.ofMillis 2).nanos) ∧
      ¬ (∀ w ∈ waits, w.nanos ≤ (Duration.ofMillis 2).nanos) ∧
      ¬ waits.Pairwise (fun v w => v.nanos ≤ w.nanos) := by
  have hsettings : ∃ s, Scheduler.ofSettings impatient = .ok s ∧ s.backoff = .ofMillis 5 ∧
      s.backoffMax = some (.ofMillis 2) ∧
      (s.subscribe thirdTime).waits = [.ofMillis 5,.ofMillis 2] :=
    ⟨_,rfl,rfl,by decide +kernel,by decide +kernel⟩
  obtain ⟨s,hs,hfirst,hlongest,hwaits⟩ := hsettings
  refine ⟨s,hs,hlongest,_,hwaits,rfl,fun h => ?_,by decide,by decide⟩
  have h0 := h 0 (.ofMillis 5) rfl
  rw [hfirst] at h0
  exact absurd h0 (by decide)

end Scheduler
end ClusterFramework
