import ClusterFramework.Proofs.Dictionary
import ClusterFramework.Retry.Registry
import Mathlib.Data.List.Induction

/-! Failures counted over any actions on a registry. The policy of an id allows as many retries as
remained when it was added, whatever happens under other ids, and is then still the same policy
with its retries counted. -/
namespace ClusterFramework

namespace RetryPolicy

variable {p : RetryPolicy}

theorem toNat_countFailure {q : RetryPolicy} (h : q.totalRetries < q.maxRetries) :
    (q.totalRetries + 1).toNat = q.totalRetries.toNat + 1 := by
  have hlt : q.totalRetries.toNat < q.maxRetries.toNat := h
  have hmax := q.maxRetries.toNat_lt
  rw [UInt32.toNat_add,UInt32.toNat_one]
  exact Nat.mod_eq_of_lt (by omega)

theorem lt_iff_remaining (p : RetryPolicy) : p.totalRetries < p.maxRetries ↔ 0 < p.remaining :=
  Nat.sub_pos_iff_lt.symm

theorem countFailure_eq (p : RetryPolicy) : ∃ total,
    p.countFailure = (decide (0 < p.remaining),{ p with totalRetries := total }) ∧
      total.toNat = p.totalRetries.toNat+(decide (0 < p.remaining)).toNat ∧
      p.countFailure.2.remaining = p.remaining-1 := by
  rw [countFailure]
  split
  · rename_i hlt
    have hpos := p.lt_iff_remaining.mp hlt
    have htotal := toNat_countFailure hlt
    refine ⟨p.totalRetries+1,by rw [decide_eq_true hpos],?_,?_⟩
    · rw [decide_eq_true hpos,htotal]
      rfl
    · simp only [remaining,htotal]
      omega
  · rename_i hlt
    have hpos := mt p.lt_iff_remaining.mpr hlt
    refine ⟨p.totalRetries,by rw [decide_eq_false hpos],?_,?_⟩
    · rw [decide_eq_false hpos]
      rfl
    · simp only
      omega

end RetryPolicy

inductive RetryAction where
  | add (id : String) (p : RetryPolicy)
  | check (id : String)
  | clear (id : String)
  | fail (id : String)
  deriving DecidableEq,Repr

inductive RetryReply where
  | done
  | policy (p : Option RetryPolicy)
  | allowed (b : Bool)
  deriving DecidableEq,Repr

namespace RetryAction

def id : RetryAction → String
  | add id _ | check id | clear id | fail id => id

/-- What an action answers and leaves, by what stands under its id. -/
def effect : RetryAction → Option RetryPolicy → RetryReply × Option RetryPolicy
  | add _ p, _ => (.done,some p)
  | check _, o => (.policy o,o)
  | clear _, o => (.policy o,none)
  | fail _, none => (.allowed false,none)
  | fail _, some p => (.allowed p.countFailure.1,some p.countFailure.2)

end RetryAction

namespace RetryRegistry

def perform (r : RetryRegistry) : RetryAction → RetryReply × RetryRegistry
  | .add id p => (.done,r.insert id p)
  | .check id => (.policy (r.get? id),r)
  | .clear id => (.policy (r.get? id),r.erase id)
  | .fail id => (.allowed (r.recordFailure id).1,(r.recordFailure id).2)

def replies (r : RetryRegistry) : List RetryAction → List RetryReply
  | [] => []
  | x :: xs => (r.perform x).1 :: replies (r.perform x).2 xs

def after (r : RetryRegistry) : List RetryAction → RetryRegistry
  | [] => r
  | x :: xs => after (r.perform x).2 xs

variable {r r' : RetryRegistry} {id : String} {p : RetryPolicy}

theorem after_append (r : RetryRegistry) (xs ys : List RetryAction) :
    after r (xs ++ ys) = after (after r xs) ys := by
  induction xs generalizing r with
  | nil => rfl
  | cons x xs ih => exact ih _

theorem reply_perform (r : RetryRegistry) (x : RetryAction) :
    (r.perform x).1 = (x.effect (r.get? x.id)).1 := by
  cases x with
  | fail id =>
    rw [perform,recordFailure,RetryAction.id]
    cases r.get? id <;> rfl
  | _ => rfl

theorem get?_perform (r : RetryRegistry) (x : RetryAction) (id : String) :
    (r.perform x).2.get? id = if x.id = id then (x.effect (r.get? id)).2 else r.get? id := by
  cases x with
  | add id' p => simp [perform,RetryAction.id,RetryAction.effect,eq_comm]
  | check id' => exact (ite_self _).symm
  | clear id' => simp [perform,RetryAction.id,RetryAction.effect,eq_comm]
  | fail id' =>
    rw [perform,get?_recordFailure,RetryAction.id]
    by_cases hid : id = id'
    · subst hid
      cases h : r.get? id <;> simp [RetryAction.effect]
    · rw [if_neg hid,if_neg (Ne.symm hid)]

/-- What happens under one id is what would happen without the others. -/
theorem replies_of_id (h : r.get? id = r'.get? id) (xs : List RetryAction) :
    ((xs.zip (r.replies xs)).filter fun a => a.1.id = id) =
        (xs.filter fun x => x.id = id).zip (r'.replies (xs.filter fun x => x.id = id)) ∧
      (r.after xs).get? id = (r'.after (xs.filter fun x => x.id = id)).get? id := by
  induction xs generalizing r r' with
  | nil => exact ⟨rfl,h⟩
  | cons x xs ih =>
    by_cases hx : x.id = id
    · have hnext : (r.perform x).2.get? id = (r'.perform x).2.get? id := by
        rw [get?_perform,get?_perform,h]
      obtain ⟨hreplies,hafter⟩ := ih hnext
      have hreply : (r.perform x).1 = (r'.perform x).1 := by
        rw [reply_perform,reply_perform,hx,h]
      simp [hx,replies,after,hreply,hreplies,hafter]
    · have hnext : (r.perform x).2.get? id = r'.get? id := by
        rw [get?_perform,if_neg hx,h]
      obtain ⟨hreplies,hafter⟩ := ih hnext
      simp [hx,replies,after,hreplies,hafter]

def verdict? (id : String) : RetryAction × RetryReply → Option Bool
  | (.fail id',.allowed b) => if id' = id then some b else none
  | _ => none

def verdicts (r : RetryRegistry) (id : String) (xs : List RetryAction) : List Bool :=
  (xs.zip (r.replies xs)).filterMap (verdict? id)

/-- The policy under the id is neither replaced nor cleared. -/
def Keeps (id : String) (xs : List RetryAction) : Prop :=
  ∀ x ∈ xs, x ≠ .clear id ∧ ∀ p, x ≠ .add id p

theorem verdicts_fail (h : r.get? id = some p) (xs : List RetryAction) :
    verdicts r id (.fail id :: xs) =
      p.countFailure.1 :: verdicts (r.perform (.fail id)).2 id xs := by
  have hreply : (r.perform (.fail id)).1 = .allowed p.countFailure.1 := by
    rw [reply_perform,RetryAction.id,h]
    rfl
  have hverdict : verdict? id (.fail id,.allowed p.countFailure.1) = some p.countFailure.1 :=
    if_pos rfl
  rw [verdicts,replies,List.zip_cons_cons,hreply,List.filterMap_cons,hverdict]
  rfl

theorem verdicts_of_ne {x : RetryAction} (hx : x ≠ .fail id) (xs : List RetryAction) :
    verdicts r id (x :: xs) = verdicts (r.perform x).2 id xs := by
  have hverdict : ∀ reply, verdict? id (x,reply) = none := by
    intro reply
    cases x with
    | fail id' =>
      have hne : id' ≠ id := fun hid => hx (by rw [hid])
      cases reply <;> simp [verdict?,hne]
    | _ => rfl
  rw [verdicts,replies,List.zip_cons_cons,List.filterMap_cons,hverdict]
  rfl

/-- Only a failure under the id moves what has been kept under it. -/
theorem get?_perform_of_keeps {x : RetryAction} (hx : x ≠ .clear id ∧ ∀ p, x ≠ .add id p)
    (hfail : x ≠ .fail id) : (r.perform x).2.get? id = r.get? id := by
  rw [get?_perform]
  by_cases hid : x.id = id
  · cases x with
    | add id' p => exact absurd (hid ▸ rfl) (hx.2 p)
    | check id' => exact ite_self _
    | clear id' => exact absurd (hid ▸ rfl) hx.1
    | fail id' => exact absurd (hid ▸ rfl) hfail
  · exact if_neg hid

theorem range_succ_map_lt (n m : Nat) : (List.range (n+1)).map (fun i => decide (i < m)) =
    decide (0 < m) :: (List.range n).map fun i => decide (i < m-1) := by
  rw [List.range_succ_eq_map,List.map_cons,List.map_map]
  refine congrArg _ (List.map_congr_left fun i _ => decide_eq_decide.mpr ?_)
  exact Nat.lt_sub_iff_add_lt.symm

theorem verdicts_of_get? (h : r.get? id = some p) {xs : List RetryAction} (hxs : Keeps id xs) :
    verdicts r id xs = (List.range (xs.count (.fail id))).map (fun i => decide (i < p.remaining)) ∧
      ∃ total, (r.after xs).get? id = some { p with totalRetries := total } ∧
        total.toNat = p.totalRetries.toNat+(verdicts r id xs).count true := by
  induction xs generalizing r p with
  | nil => exact ⟨rfl,p.totalRetries,h,rfl⟩
  | cons x xs ih =>
    obtain ⟨hx,hrest⟩ := List.forall_mem_cons.mp hxs
    by_cases hfail : x = .fail id
    · subst hfail
      obtain ⟨counted,hp,hcounted,hremaining⟩ := p.countFailure_eq
      have hnext : (r.perform (.fail id)).2.get? id = some p.countFailure.2 := by
        rw [get?_perform,RetryAction.id,if_pos rfl,h]
        rfl
      obtain ⟨hverdicts,total,hafter,htotal⟩ := ih hnext hrest
      rw [hremaining] at hverdicts
      rw [verdicts_fail h,List.count_cons_self,range_succ_map_lt,← hverdicts]
      rw [hp] at hafter htotal ⊢
      refine ⟨rfl,total,hafter,?_⟩
      rw [htotal,hcounted,List.count_cons,Nat.add_assoc,Nat.add_comm (List.count ..)]
      cases decide (0 < p.remaining) <;> rfl
    · have hnext := get?_perform_of_keeps (r := r) hx hfail
      rw [verdicts_of_ne hfail,List.count_cons_of_ne hfail]
      exact ih (hnext.trans h) hrest

/-- A policy in force has been added and not cleared since. -/
theorem added_of_get? {xs : List RetryAction} (h : (after .empty xs).get? id = some p) :
    ∃ earlier q since, xs = earlier ++ .add id q :: since ∧ .clear id ∉ since := by
  induction xs using List.reverseRecOn generalizing p with
  | nil => cases h
  | append_singleton xs x ih =>
    rw [after_append,after,after,get?_perform] at h
    have hearlier : ∀ {q}, (after .empty xs).get? id = some q → x ≠ .clear id →
        ∃ earlier q since, xs ++ [x] = earlier ++ .add id q :: since ∧ .clear id ∉ since := by
      intro q hq hx
      obtain ⟨earlier,q,since,rfl,hsince⟩ := ih hq
      refine ⟨earlier,q,since ++ [x],by simp,?_⟩
      simp [hsince,Ne.symm hx]
    by_cases hid : x.id = id
    · subst hid
      rw [if_pos rfl] at h
      cases x with
      | add id q => exact ⟨xs,q,[],rfl,List.not_mem_nil⟩
      | check id => exact hearlier h nofun
      | clear id => cases h
      | fail id =>
        cases hq : (after .empty xs).get? id with
        | none =>
          rw [RetryAction.id,hq] at h
          cases h
        | some q => exact hearlier hq nofun
    · rw [if_neg hid] at h
      exact hearlier h fun hx => hid (by rw [hx]; rfl)

theorem get?_after_add (r : RetryRegistry) (xs : List RetryAction) (id : String)
    (p : RetryPolicy) : (r.after (xs ++ [.add id p])).get? id = some p := by
  rw [after_append,after,after,get?_perform,RetryAction.id,if_pos rfl]
  rfl

/-- Of the failures under an id since its policy was added, as many are allowed as retries
remained, and they are the first ones; the policy that is then in force is the one that was added
with these failures counted. Without a policy no failure is allowed, and none is noted. What
happens under other ids makes no difference. -/
theorem counts_of_actions (xs : List RetryAction) (id : String) :
    let r := after .empty xs
    (∀ earlier p since, xs = earlier ++ .add id p :: since → Keeps id since →
      let answers := verdicts (after .empty (earlier ++ [.add id p])) id since
      answers =
          (List.range (since.count (.fail id))).map (fun i => decide (i < p.remaining)) ∧
        ∃ total, r.perform (.check id) = (.policy (some { p with totalRetries := total }),r) ∧
          total.toNat = p.totalRetries.toNat+answers.count true) ∧
      ((∀ earlier p since, xs = earlier ++ .add id p :: since → .clear id ∈ since) →
        r.perform (.check id) = (.policy none,r) ∧ r.perform (.fail id) = (.allowed false,r)) ∧
      let own := xs.filter fun x => x.id = id
      ((xs.zip (replies .empty xs)).filter fun a => a.1.id = id) =
          own.zip (replies .empty own) ∧
        r.get? id = (after .empty own).get? id := by
  refine ⟨?_,?_,replies_of_id rfl xs⟩
  · rintro earlier p since rfl hsince
    obtain ⟨hverdicts,total,hafter,htotal⟩ :=
      verdicts_of_get? (get?_after_add .empty earlier id p) hsince
    refine ⟨hverdicts,total,?_,htotal⟩
    rw [← after_append,List.append_assoc] at hafter
    rw [perform]
    exact congrArg (fun o => (RetryReply.policy o,_)) hafter
  · intro hcleared
    have hnone : (after .empty xs).get? id = none := by
      refine Option.eq_none_iff_forall_not_mem.mpr fun p hp => ?_
      obtain ⟨earlier,q,since,hxs,hsince⟩ := added_of_get? hp
      exact hsince (hcleared earlier q since hxs)
    rw [perform,perform,recordFailure_none hnone,hnone]
    exact ⟨rfl,rfl⟩

/-- A policy that allows two retries, of which one is taken, while another id fails as well. -/
theorem counts_of_actions_interleaved :
    let p : RetryPolicy := { RetryPolicy.default with maxRetries := 2, totalRetries := 1 }
    let since : List RetryAction := [.fail "a",.add "b" .default,.fail "b",.fail "a",.fail "a"]
    let earlier : List RetryAction := [.fail "a",.add "a" .default,.clear "a"]
    verdicts (after .empty (earlier ++ [.add "a" p])) "a" since = [true,false,false] ∧
      ((after .empty (earlier ++ .add "a" p :: since)).get? "a").map (·.totalRetries) = some 2 := by
  intro p since earlier
  obtain ⟨hverdicts,-⟩ := (counts_of_actions (earlier ++ .add "a" p :: since) "a").1
    earlier p since rfl (by simp [Keeps,since])
  exact ⟨hverdicts,rfl⟩

end RetryRegistry
end ClusterFramework
