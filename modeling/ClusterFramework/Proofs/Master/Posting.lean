import ClusterFramework.Master.Scheduler
import ClusterFramework.Proofs.Message.Orders
import Mathlib.Data.List.Induction

/-! What a scheduler posts, after whatever it was asked to do before. The stream id it holds is
the one of the latest subscription since the last teardown, and the framework id the one that
was assigned last; an order is posted with both of them, or not at all. -/
namespace ClusterFramework

namespace Network

theorem mem_encode_of_ascii {t : String} {c : Char} (h : c ∈ t.toList) (hc : c.toNat < 128) :
    UInt8.ofNat c.toNat ∈ Utf8.encode t := by
  have hoctets : Utf8.encode t = t.toList.flatMap String.utf8EncodeChar := by
    show t.toByteArray.data.toList = _
    rw [← String.utf8Encode_toList,List.utf8Encode]
    simp
  have hoctet : String.utf8EncodeChar c = [UInt8.ofNat c.toNat] := by
    rw [String.utf8EncodeChar]
    exact if_pos (Nat.le_of_lt_succ hc)
  rw [hoctets]
  exact List.mem_flatMap.mpr ⟨c,h,hoctet ▸ List.mem_cons_self⟩

/-- What was read from a header can be written into one. -/
theorem isHeaderText_of_visibleText? {value : Octets} {t : String}
    (h : visibleText? value = some t) : isHeaderText t := by
  rw [visibleText?] at h
  split at h
  · rename_i hvisible
    refine List.all_eq_true.mpr fun c hc => ?_
    by_cases hascii : c.toNat < 128
    · have hmem := Utf8.encode_of_decode? h ▸ mem_encode_of_ascii hc hascii
      have hc' := List.all_eq_true.mp hvisible _ hmem
      have hnat : (UInt8.ofNat c.toNat).toNat = c.toNat := Nat.mod_eq_of_lt (by omega)
      have htab : c.toNat = 9 → c = '\t' := fun h9 => Char.toNat_inj.mp h9
      simp only [isVisible,hnat,Bool.or_eq_true,Bool.and_eq_true,decide_eq_true_eq] at hc'
      rcases hc' with ⟨hlow,hhigh⟩ | h9
      · simp only [Bool.and_eq_true,Bool.or_eq_true,decide_eq_true_eq]
        exact ⟨.inl hlow,by omega⟩
      · simp [htab h9]
    · simp only [Bool.and_eq_true,Bool.or_eq_true,decide_eq_true_eq]
      exact ⟨.inl (by omega),by omega⟩
  · cases h

end Network

namespace Master

def Answer.streamId? : Answer → Option String
  | .response r => if isSuccess r.status then r.streamId? else none
  | _ => none

def Answer.outcome (a : Answer) : Except FrameworkError Unit :=
  match a.accepted with
  | .ok _ => .ok ()
  | .error e => .error (.master e)

theorem Answer.outcome_ne (a : Answer) : a.outcome ≠ .error (.master .noStreamId) := by
  cases a with
  | response r =>
    rw [outcome,accepted]
    cases isSuccess r.status <;> nofun
  | _ => nofun

theorem Answer.isHeaderText_of_streamId? {a : Answer} {id : String} (h : a.streamId? = some id) :
    Network.isHeaderText id := by
  cases a with
  | response r =>
    rw [streamId?] at h
    split at h
    · rw [Response.streamId?] at h
      obtain ⟨hvalue,_⟩ := Option.filter_eq_some_iff.mp h
      obtain ⟨value,_,htext⟩ := Option.bind_eq_some_iff.mp hvalue
      exact Network.isHeaderText_of_visibleText? htext
    · cases h
  | _ => cases h

end Master

namespace Scheduler

open Master WireForm

/-- What a scheduler is asked to do, with the answers that the master gives if it is reached. -/
inductive Turn where
  | subscribe (answers : List Answer)
  | order (o : Order) (a : Answer)
  | assign (id : FrameworkId)
  deriving DecidableEq,Repr

namespace Turn

/-- The stream id of the subscription that is opened. -/
def streamId? : Turn → Option String
  | .subscribe answers => answers.findSome? Answer.streamId?
  | _ => none

def isTeardown : Turn → Bool
  | .order .teardown _ => true
  | _ => false

def frameworkId? : Turn → Option FrameworkId
  | .assign id => some id
  | _ => none

end Turn

/-- The id of the latest subscription since the last teardown. -/
def latestStreamId? (ts : List Turn) : Option String :=
  (ts.reverse.takeWhile fun t => !t.isTeardown).findSome? Turn.streamId?

def latestFrameworkId? (ts : List Turn) : Option FrameworkId :=
  ts.reverse.findSome? Turn.frameworkId?

theorem latestStreamId?_concat (ts : List Turn) (t : Turn) : latestStreamId? (ts ++ [t]) =
    if t.isTeardown then none else t.streamId?.or (latestStreamId? ts) := by
  rw [latestStreamId?,List.reverse_concat,List.takeWhile_cons]
  cases t.isTeardown with
  | true => rfl
  | false =>
    show List.findSome? _ (t :: _) = _
    rw [List.findSome?_cons]
    cases t.streamId? <;> rfl

theorem latestFrameworkId?_concat (ts : List Turn) (t : Turn) :
    latestFrameworkId? (ts ++ [t]) = t.frameworkId?.or (latestFrameworkId? ts) := by
  rw [latestFrameworkId?,List.reverse_concat,List.findSome?_cons]
  cases t.frameworkId? <;> rfl

def turn (s : Scheduler) : Turn → Scheduler
  | .subscribe answers => (s.subscribe answers).scheduler
  | .order o a => (s.order o a).2
  | .assign id => s.setFrameworkId id

def play (s : Scheduler) (ts : List Turn) : Scheduler := ts.foldl turn s

variable (s : Scheduler)

theorem foldl_note (es : List Log.Entry) : es.foldl note s = { s with log := s.log ++ es } := by
  induction es generalizing s with
  | nil =>
    rw [List.append_nil]
    rfl
  | cons e es ih =>
    rw [List.foldl_cons,ih]
    simp [note]

theorem post_eq (p : Post) (a : Answer) :
    s.post p a = { s with posts := s.posts ++ if a.arrives then [p] else [] } := by
  rw [post]
  split
  · rfl
  · rw [List.append_nil]

theorem announce_eq (o : Order) : ∃ log, s.announce o = { s with log := log } := by
  cases o <;> exact ⟨_,rfl⟩

def closing (o : Order) (log : List Log.Entry) : Scheduler :=
  { s with streamId := if o = .teardown then none else s.streamId, log := log }

theorem order_eq {o : Order} {a : Answer} {result : Except FrameworkError Unit}
    {posts : List Post} (h : ∀ log, ∃ log',
      { s with log := log }.send o a = (result,{ s with posts := posts, log := log' })) :
    ∃ log, s.order o a = (result,{ s with posts := posts }.closing o log) := by
  obtain ⟨log,hlog⟩ := s.announce_eq o
  obtain ⟨log',hsend⟩ := h log
  rw [order,hlog,hsend]
  by_cases ho : o = .teardown
  · refine ⟨log' ++ [.saying .info "Framework torn down"],?_⟩
    simp [ho,closing,clearStreamId,note]
  · refine ⟨log',?_⟩
    simp [ho,closing]

theorem order_of_none {s : Scheduler} (h : s.streamId = none) (o : Order) (a : Answer) :
    ∃ log, s.order o a = (.error (.master .noStreamId),s.closing o log) := by
  have hsend : ∀ log, ∃ log', { s with log := log }.send o a =
      (.error (.master .noStreamId),{ s with posts := s.posts, log := log' }) := fun log => by
    rw [send,transmit,h]
    exact ⟨_,rfl⟩
  exact order_eq s hsend

theorem order_of_some {s : Scheduler} {id : String} (h : s.streamId = some id)
    (hid : Network.isHeaderText id) (o : Order) (a : Answer) :
    let p := orderPost s.url id (o.toCall s.frameworkId)
    ∃ log, s.order o a = (a.outcome,(s.post p a).closing o log) := by
  intro p
  rw [post_eq]
  refine order_eq s fun log => ?_
  have htransmit : { s with log := log }.transmit (o.toCall s.frameworkId) a =
      (a.accepted,{ s with log := log }.post p a) := by
    rw [transmit]
    simp only [h,hid,if_true]
    rfl
  show ∃ log', ({ s with log := log } : Scheduler).send o a = _
  rw [send]
  have hframework : ({ s with log := log } : Scheduler).frameworkId = s.frameworkId := rfl
  rw [hframework,htransmit,post_eq,Answer.outcome]
  cases a.accepted with
  | ok r => exact ⟨_,rfl⟩
  | error e =>
    dsimp only
    rw [foldl_note]
    exact ⟨_,rfl⟩

theorem opened_of_some {a : Answer} {id : String} (h : a.streamId? = some id) :
    ∃ r, opened a = .ok (id,r) := by
  cases a with
  | response r =>
    rw [Answer.streamId?] at h
    split at h
    · rename_i hstatus
      exact ⟨r,by simp [opened,Answer.accepted,hstatus,h,bind,Except.bind,pure,Except.pure]⟩
    · cases h
  | _ => cases h

theorem opened_of_none {a : Answer} (h : a.streamId? = none) : ∃ e, opened a = .error e := by
  cases a with
  | response r =>
    rw [Answer.streamId?] at h
    split at h
    · rename_i hstatus
      refine ⟨.missingStreamId,?_⟩
      simp [opened,Answer.accepted,hstatus,h,bind,Except.bind,throw,throwThe,MonadExceptOf.throw]
    · rename_i hstatus
      rw [opened,Answer.accepted,if_neg hstatus]
      exact ⟨_,rfl⟩
  | _ => exact ⟨_,rfl⟩

theorem attempt_of_some {a : Answer} {id : String} (h : a.streamId? = some id) :
    ∃ r posts log,
      s.attempt a = (.ok r,{ s with streamId := some id, posts := posts, log := log }) := by
  obtain ⟨r,hopened⟩ := opened_of_some h
  rw [attempt,hopened,post_eq]
  exact ⟨r,_,_,rfl⟩

theorem attempt_of_none {a : Answer} (h : a.streamId? = none) :
    ∃ e posts log, s.attempt a = (.error e,{ s with posts := posts, log := log }) := by
  obtain ⟨e,hopened⟩ := opened_of_none h
  rw [attempt,hopened,post_eq]
  dsimp only
  rw [foldl_note]
  exact ⟨e,_,_,rfl⟩

/-- Subscribing ends with the first answer that opens a subscription, and changes neither id
without one. -/
theorem subscribeFrom_eq (wait : Duration) (answers : List Answer) :
    (∃ posts log, (s.subscribeFrom wait answers).scheduler =
      { s with
        streamId := (answers.findSome? Answer.streamId?).or s.streamId
        posts := posts
        log := log }) ∧
      ((s.subscribeFrom wait answers).response = none ↔
        answers.findSome? Answer.streamId? = none) := by
  induction answers generalizing s wait with
  | nil => exact ⟨⟨s.posts,s.log,rfl⟩,iff_of_true rfl rfl⟩
  | cons a answers ih =>
    rw [subscribeFrom,List.findSome?_cons]
    cases h : a.streamId? with
    | some id =>
      obtain ⟨r,posts,log,hattempt⟩ := s.attempt_of_some h
      rw [hattempt]
      exact ⟨⟨posts,log,rfl⟩,iff_of_false nofun nofun⟩
    | none =>
      obtain ⟨e,posts,log,hattempt⟩ := s.attempt_of_none h
      rw [hattempt]
      dsimp only
      obtain ⟨⟨posts',log',hrest⟩,hresponse⟩ := ih _ _
      exact ⟨⟨posts',log',hrest⟩,hresponse⟩

/-- Whatever stream id is held can be written into a header. -/
def Usable (s : Scheduler) : Prop := ∀ id, s.streamId = some id → Network.isHeaderText id

theorem Turn.isHeaderText_of_streamId? {t : Turn} {id : String} (h : t.streamId? = some id) :
    Network.isHeaderText id := by
  cases t with
  | subscribe answers =>
    obtain ⟨a,_,ha⟩ := List.exists_of_findSome?_eq_some h
    exact Answer.isHeaderText_of_streamId? ha
  | _ => cases h

section

variable {s}

theorem order_ids (h : s.Usable) (o : Order) (a : Answer) : ∃ posts log,
    (s.order o a).2 = { s with posts := posts }.closing o log := by
  rcases Option.eq_none_or_eq_some s.streamId with hs | ⟨id,hs⟩
  · obtain ⟨log,horder⟩ := order_of_none hs o a
    exact ⟨s.posts,log,congrArg Prod.snd horder⟩
  · obtain ⟨log,horder⟩ := order_of_some hs (h id hs) o a
    rw [post_eq] at horder
    exact ⟨_,log,congrArg Prod.snd horder⟩

/-- A turn leaves the address alone, and everything that the framework says of itself but its
id. -/
theorem turn_eq (h : s.Usable) (t : Turn) :
    (s.turn t).url = s.url ∧ (s.turn t).frameworkId = t.frameworkId?.or s.frameworkId ∧
      (s.turn t).streamId = if t.isTeardown then none else t.streamId?.or s.streamId := by
  cases t with
  | subscribe answers =>
    obtain ⟨⟨posts,log,hrest⟩,_⟩ := s.subscribeFrom_eq s.backoff answers
    rw [turn,subscribe,hrest]
    exact ⟨rfl,rfl,rfl⟩
  | order o a =>
    obtain ⟨posts,log,horder⟩ := order_ids h o a
    rw [turn,horder]
    refine ⟨rfl,rfl,?_⟩
    cases o <;> rfl
  | assign id => exact ⟨rfl,rfl,rfl⟩

theorem Usable.turn (h : s.Usable) (t : Turn) : (s.turn t).Usable := fun id hid => by
  rw [(turn_eq h t).2.2] at hid
  split at hid
  · cases hid
  · rcases Option.or_eq_some_iff.mp hid with hid | ⟨_,hid⟩
    · exact Turn.isHeaderText_of_streamId? hid
    · exact h id hid

end

/-- The ids that are held are those that the turns say. -/
theorem play_eq {s₀ : Scheduler} (hs₀ : s₀.streamId = none) (ts : List Turn) :
    (s₀.play ts).Usable ∧ (s₀.play ts).url = s₀.url ∧
      (s₀.play ts).frameworkId = (latestFrameworkId? ts).or s₀.frameworkId ∧
      (s₀.play ts).streamId = latestStreamId? ts := by
  induction ts using List.reverseRecOn with
  | nil =>
    refine ⟨fun id hid => ?_,rfl,rfl,hs₀⟩
    cases hs₀.symm.trans hid
  | append_singleton ts t ih =>
    obtain ⟨husable,hurl,hframework,hstream⟩ := ih
    have hplay : s₀.play (ts ++ [t]) = (s₀.play ts).turn t := by
      rw [play,List.foldl_append]
      rfl
    obtain ⟨hurl',hframework',hstream'⟩ := turn_eq husable t
    rw [hplay,latestFrameworkId?_concat,latestStreamId?_concat]
    refine ⟨husable.turn t,hurl'.trans hurl,?_,?_⟩
    · rw [hframework',hframework,Option.or_assoc]
    · rw [hstream',hstream]

def unsubscribed : Scheduler :=
  { url := { scheme := "http", host := some (.domain "master"), path := .slashed "/api" }
    info := { user := "root", name := "batch" }
    backoff := .ofMillis 0 }

def opening (id : String) : Answer :=
  .response { status := 200, headers := [("Mesos-Stream-Id",Utf8.encode id)] }

/-- The third attempt opens a subscription; after the teardown the next one does. -/
def subscribedTwice : List Turn :=
  [.subscribe [.unreachable,.response { status := 500 },opening "first"],.assign ⟨"F1"⟩,
   .order .teardown .dropped,.subscribe [opening "",opening "second"]]

def zeroRequest (zero : Binary64) : Order := .request [{ resources := [.ofScalar "cpus" zero] }]

end Scheduler
end ClusterFramework
