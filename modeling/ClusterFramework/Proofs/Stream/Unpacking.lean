import ClusterFramework.Proofs.Stream.Notice

/-! What a notice is unpacked from. The number of an event says which of its payloads counts: the
notice holds what that payload carries, or is unknown where something that it needs is missing,
and no other payload has a say in it. -/
namespace ClusterFramework

/-- No whole number is nearer to the quotient, and of two that are equally near it is the even
one. -/
structure Nearest (num den n : Nat) : Prop where
  low : 2*num ≤ (2*n+1)*den
  high : 2*n*den ≤ 2*num+den
  even : 2*num = (2*n+1)*den ∨ 2*n*den = 2*num+den → n%2 = 0

theorem nearest_roundHalfEven (num : Nat) {den : Nat} (hd : 0 < den) :
    Nearest num den (roundHalfEven num den) := by
  obtain ⟨hlow,hhigh⟩ := roundHalfEven_near num den hd
  refine ⟨hlow,hhigh,?_⟩
  have hnum : num/den*den+num%den = num := Nat.div_add_mod' num den
  have hrest := Nat.mod_lt num hd
  unfold roundHalfEven
  simp only
  split
  · rw [Nat.add_mul,Nat.mul_assoc]
    omega
  · split
    · rw [Nat.add_mul,Nat.mul_assoc,Nat.add_mul]
      omega
    · omega

theorem Nearest.not_lt {num den n m : Nat} (h : Nearest num den n) (h' : Nearest num den m)
    (hd : 0 < den) : ¬n < m := by
  intro hlt
  have hn := h.low
  have hm := h'.high
  have hstep : (2*n+1+1)*den ≤ 2*m*den := Nat.mul_le_mul_right den (by omega)
  rw [Nat.succ_mul] at hstep
  have hnext : 2*m = 2*n+1+1 :=
    Nat.eq_of_mul_eq_mul_right hd (by rw [Nat.succ_mul (2*n+1)]; omega)
  have hneven := h.even (by omega)
  have hmeven := h'.even (by omega)
  omega

theorem nearest_iff {num den n : Nat} (hd : 0 < den) :
    Nearest num den n ↔ n = roundHalfEven num den := by
  constructor
  · intro h
    have hround := nearest_roundHalfEven num hd
    exact Nat.le_antisymm (Nat.not_lt.mp (hround.not_lt h hd)) (Nat.not_lt.mp (h.not_lt hround hd))
  · rintro rfl
    exact nearest_roundHalfEven num hd

namespace Notice

/-- An interval is taken over if it is given, finite and above zero, in whole nanoseconds. -/
structure Announced (seconds : Option Binary64) (interval : Option Duration) : Prop where
  isSome_iff : interval.isSome ↔ ∃ x ∈ seconds, x.isFinite ∧ ¬x.isNegative ∧ ¬x.isZero
  nearest : ∀ x ∈ seconds, ∀ d ∈ interval,
    Nearest (x.mantissa*2^x.scale*1000000000) (2^1074) d.nanos

theorem ofSeconds?_eq_some_iff (x : Binary64) (d : Duration) : Duration.ofSeconds? x = some d ↔
    Nearest (x.mantissa*2^x.scale*1000000000) (2^1074) d.nanos := by
  obtain ⟨nanos,hlt⟩ := d
  unfold Duration.ofSeconds?
  generalize 1074 = e
  rw [nearest_iff (Nat.two_pow_pos e)]
  simp only [Nat.pow_eq,Option.dite_none_right_eq_some,Option.some.injEq,Duration.mk.injEq,
    exists_prop]
  constructor
  · exact fun h => h.2.symm
  · exact fun h => ⟨h ▸ hlt,h.symm⟩

theorem counts_iff (x : Binary64) : (x.isFinite && Binary64.lt .zero x) ↔
    x.isFinite ∧ ¬x.isNegative ∧ ¬x.isZero := by
  rw [Bool.and_eq_true]
  exact and_congr_right Binary64.zero_lt_iff

theorem interval?_of_counts {x : Binary64} (h : x.isFinite ∧ ¬x.isNegative ∧ ¬x.isZero) :
    interval? (some x) = (Duration.ofSeconds? x).map some := by
  rw [interval?,Option.filter_some,if_pos ((counts_iff x).mpr h)]

theorem interval?_of_not_counts {seconds : Option Binary64}
    (h : ¬∃ x ∈ seconds, x.isFinite ∧ ¬x.isNegative ∧ ¬x.isZero) :
    interval? seconds = some none := by
  cases seconds with
  | none => rfl
  | some x =>
    have hx : ¬(x.isFinite && Binary64.lt .zero x) := fun hc => h ⟨x,rfl,(counts_iff x).mp hc⟩
    rw [interval?,Option.filter_some,if_neg hx]

theorem interval?_eq_some_iff {seconds : Option Binary64} {interval : Option Duration} :
    interval? seconds = some interval ↔ Announced seconds interval := by
  by_cases hcounts : ∃ x ∈ seconds, x.isFinite ∧ ¬x.isNegative ∧ ¬x.isZero
  · obtain ⟨x,rfl,hx⟩ := hcounts
    rw [interval?_of_counts hx,Option.map_eq_some_iff]
    constructor
    · rintro ⟨d,hd,rfl⟩
      refine ⟨by simpa using hx,?_⟩
      rintro _ ⟨⟩ _ ⟨⟩
      exact (ofSeconds?_eq_some_iff x d).mp hd
    · intro h
      obtain ⟨d,rfl⟩ := Option.isSome_iff_exists.mp (h.isSome_iff.mpr ⟨x,rfl,hx⟩)
      exact ⟨d,(ofSeconds?_eq_some_iff x d).mpr (h.nearest x rfl d rfl),rfl⟩
  · rw [interval?_of_not_counts hcounts]
    constructor
    · rintro ⟨⟩
      exact ⟨by simpa using hcounts,nofun⟩
    · intro h
      exact (congrArg some (Option.not_isSome_iff_eq_none.mp (mt h.isSome_iff.mp hcounts))).symm

/-- A notice is unpacked from the payload that the event's number asks for, if that is there with
what the notice cannot do without. -/
inductive Unpacks (e : Event) : Notice → Prop
  | subscribed {s : Event.Subscribed} {framework : FrameworkId} {interval : Option Duration} :
      e.kind = 1 → e.subscribed = some s → s.frameworkId = some framework →
        Announced s.heartbeatIntervalSeconds interval →
          Unpacks e (.subscribed framework interval s.masterInfo)
  | offers {o : Event.Offers} : e.kind = 2 → e.offers = some o → Unpacks e (.offers o.offers)
  | rescind {r : Event.Rescind} {offer : OfferId} : e.kind = 3 → e.rescind = some r →
      r.offerId = some offer → Unpacks e (.rescind offer)
  | update {u : Event.Update} {status : TaskStatus} : e.kind = 4 → e.update = some u →
      u.status = some status → Unpacks e (.update status)
  | message {m : Event.Message} : e.kind = 5 → e.message = some m → Unpacks e (.message m)
  | failure {f : Event.Failure} : e.kind = 6 → e.failure = some f → Unpacks e (.failure f)
  | error {x : Event.Error} : e.kind = 7 → e.error = some x → Unpacks e (.error x.message)
  | heartbeat : e.kind = 8 → Unpacks e .heartbeat
  | inverseOffers {o : Event.InverseOffers} : e.kind = 9 → e.inverseOffers = some o →
      Unpacks e (.inverseOffers o.inverseOffers)
  | rescindInverseOffer {r : Event.RescindInverseOffer} {offer : OfferId} : e.kind = 10 →
      e.rescindInverseOffer = some r → r.inverseOfferId = some offer →
        Unpacks e (.rescindInverseOffer offer)

/-- Two events with one number, and with one payload of the kind that it stands for. -/
structure Alike (e e' : Event) : Prop where
  kind : e'.kind = e.kind
  subscribed : e.kind = 1 → e'.subscribed = e.subscribed
  offers : e.kind = 2 → e'.offers = e.offers
  rescind : e.kind = 3 → e'.rescind = e.rescind
  update : e.kind = 4 → e'.update = e.update
  message : e.kind = 5 → e'.message = e.message
  failure : e.kind = 6 → e'.failure = e.failure
  error : e.kind = 7 → e'.error = e.error
  inverseOffers : e.kind = 9 → e'.inverseOffers = e.inverseOffers
  rescindInverseOffer : e.kind = 10 → e'.rescindInverseOffer = e.rescindInverseOffer

variable {e e' : Event} {n : Notice}

theorem kindOf_of_code {k : Event.Kind} (h : e.kind = k.code) : e.kindOf = k := by
  rw [Event.kindOf,h,Event.Kind.ofCode_code]

theorem code_of_kindOf {k : Event.Kind} (h : e.kindOf = k) (hk : k ≠ .unknown) :
    e.kind = k.code := by
  rw [Event.kindOf,Event.Kind.ofCode] at h
  cases hfound : Event.Kind.all.find? fun k => k.code = e.kind with
  | none =>
    rw [hfound] at h
    exact absurd h.symm hk
  | some k' =>
    rw [hfound] at h
    obtain rfl : k' = k := h
    have hcode := List.find?_some hfound
    exact (of_decide_eq_true hcode).symm

theorem Unpacks.ne_unknown (h : Unpacks e n) (code : Int32) : n ≠ .unknown code := by
  cases h <;> exact nofun

theorem Unpacks.ofEvent?_eq (h : Unpacks e n) : ofEvent? e = some n := by
  rw [ofEvent?]
  cases h with
  | subscribed hkind hs hf hi =>
    rw [kindOf_of_code (k := .subscribed) hkind]
    simp only [hs,ofSubscribed?,hf,interval?_eq_some_iff.mpr hi,Option.map_some]
  | offers hkind ho => simp [kindOf_of_code (k := .offers) hkind,ho]
  | rescind hkind hr hid => simp [kindOf_of_code (k := .rescind) hkind,hr,hid]
  | update hkind hu hs => simp [kindOf_of_code (k := .update) hkind,hu,hs]
  | message hkind hm => simp [kindOf_of_code (k := .message) hkind,hm]
  | failure hkind hf => simp [kindOf_of_code (k := .failure) hkind,hf]
  | error hkind hx => simp [kindOf_of_code (k := .error) hkind,hx]
  | heartbeat hkind => simp [kindOf_of_code (k := .heartbeat) hkind]
  | inverseOffers hkind ho => simp [kindOf_of_code (k := .inverseOffers) hkind,ho]
  | rescindInverseOffer hkind hr hid =>
    simp [kindOf_of_code (k := .rescindInverseOffer) hkind,hr,hid]

theorem eq_or_exists_of_map {α : Type} {o : Option α} {f : α → Notice} {d : Notice}
    (h : some ((o.map f).getD d) = some n) : n = d ∨ ∃ a, o = some a ∧ f a = n := by
  cases o with
  | none => exact .inl (Option.some.inj h).symm
  | some a => exact .inr ⟨a,rfl,Option.some.inj h⟩

theorem eq_or_exists_of_bind {α β : Type} {o : Option α} {g : α → Option β} {f : β → Notice}
    {d : Notice} (h : some (((o.bind g).map f).getD d) = some n) :
    n = d ∨ ∃ a b, o = some a ∧ g a = some b ∧ f b = n := by
  refine (eq_or_exists_of_map h).imp_right ?_
  rintro ⟨b,hb,hn⟩
  obtain ⟨a,ha,hg⟩ := Option.bind_eq_some_iff.mp hb
  exact ⟨a,b,ha,hg,hn⟩

theorem unpacks_of_ofEvent? (h : ofEvent? e = some n) : n = .unknown e.kind ∨ Unpacks e n := by
  rw [ofEvent?] at h
  generalize hk : e.kindOf = k at h
  have hcode := code_of_kindOf hk
  cases k with
  | subscribed =>
    cases hs : e.subscribed with
    | none => exact .inl (by simpa [hs] using h.symm)
    | some s =>
      cases hf : s.frameworkId with
      | none => exact .inl (by simpa [hs,ofSubscribed?,hf] using h.symm)
      | some framework =>
        simp only [hs,ofSubscribed?,hf,Option.map_eq_some_iff] at h
        obtain ⟨interval,hi,rfl⟩ := h
        exact .inr (.subscribed (hcode (by decide)) hs hf (interval?_eq_some_iff.mp hi))
  | offers =>
    refine (eq_or_exists_of_map h).imp_right ?_
    rintro ⟨o,ho,rfl⟩
    exact .offers (hcode (by decide)) ho
  | inverseOffers =>
    refine (eq_or_exists_of_map h).imp_right ?_
    rintro ⟨o,ho,rfl⟩
    exact .inverseOffers (hcode (by decide)) ho
  | rescind =>
    refine (eq_or_exists_of_bind h).imp_right ?_
    rintro ⟨r,offer,hr,hid,rfl⟩
    exact .rescind (hcode (by decide)) hr hid
  | rescindInverseOffer =>
    refine (eq_or_exists_of_bind h).imp_right ?_
    rintro ⟨r,offer,hr,hid,rfl⟩
    exact .rescindInverseOffer (hcode (by decide)) hr hid
  | update =>
    refine (eq_or_exists_of_bind h).imp_right ?_
    rintro ⟨u,status,hu,hs,rfl⟩
    exact .update (hcode (by decide)) hu hs
  | message =>
    refine (eq_or_exists_of_map h).imp_right ?_
    rintro ⟨m,hm,rfl⟩
    exact .message (hcode (by decide)) hm
  | failure =>
    refine (eq_or_exists_of_map h).imp_right ?_
    rintro ⟨f,hf,rfl⟩
    exact .failure (hcode (by decide)) hf
  | error =>
    refine (eq_or_exists_of_map h).imp_right ?_
    rintro ⟨x,hx,rfl⟩
    exact .error (hcode (by decide)) hx
  | heartbeat =>
    cases h
    exact .inr (.heartbeat (hcode (by decide)))
  | unknown => exact .inl (Option.some.inj h).symm

theorem Alike.ofEvent?_eq (h : Alike e e') : ofEvent? e' = ofEvent? e := by
  have hkindOf : e'.kindOf = e.kindOf := by rw [Event.kindOf,h.kind,Event.kindOf]
  rw [ofEvent?,ofEvent?,hkindOf,h.kind]
  generalize hk : e.kindOf = k
  have hcode := code_of_kindOf hk
  cases k with
  | subscribed => rw [h.subscribed (hcode (by decide))]
  | offers => rw [h.offers (hcode (by decide))]
  | inverseOffers => rw [h.inverseOffers (hcode (by decide))]
  | rescind => rw [h.rescind (hcode (by decide))]
  | rescindInverseOffer => rw [h.rescindInverseOffer (hcode (by decide))]
  | update => rw [h.update (hcode (by decide))]
  | message => rw [h.message (hcode (by decide))]
  | failure => rw [h.failure (hcode (by decide))]
  | error => rw [h.error (hcode (by decide))]
  | heartbeat | unknown => rfl

theorem exists_announced {seconds : Option Binary64}
    (h : ∀ x ∈ seconds, ¬Duration.Exceeded x) : ∃ interval, Announced seconds interval := by
  cases hi : interval? seconds with
  | none =>
    obtain ⟨x,hx,hexceeded⟩ := (interval?_eq_none_iff seconds).mp hi
    exact absurd hexceeded (h x hx)
  | some interval => exact ⟨interval,interval?_eq_some_iff.mp hi⟩

theorem exists_ofEvent? (h : ∀ s ∈ e.subscribed, ∀ x ∈ s.heartbeatIntervalSeconds,
    ¬Duration.Exceeded x) : ∃ n, ofEvent? e = some n := by
  rw [ofEvent?]
  cases e.kindOf with
  | subscribed =>
    cases hs : e.subscribed with
    | none => exact ⟨_,rfl⟩
    | some s =>
      obtain ⟨interval,hi⟩ := exists_announced (h s hs)
      cases hf : s.frameworkId with
      | none => exact ⟨.unknown e.kind,by simp [ofSubscribed?,hf]⟩
      | some framework =>
        exact ⟨_,by simp only [ofSubscribed?,hf,interval?_eq_some_iff.mpr hi,Option.map_some]; rfl⟩
  | _ => exact ⟨_,rfl⟩

/-- An event that announces no interval beyond the longest duration has a notice. It is unpacked
from the payload that the event's number asks for, and is unknown, with that number, exactly if
there is nothing to unpack; no other part of the event matters. -/
theorem ofEvent?_decided (e : Event)
    (h : ∀ s ∈ e.subscribed, ∀ x ∈ s.heartbeatIntervalSeconds, ¬Duration.Exceeded x) :
    (∀ s ∈ e.subscribed, ∃ interval, Announced s.heartbeatIntervalSeconds interval) ∧
      ∃ n, ofEvent? e = some n ∧ (Unpacks e n ∨ (∀ m, ¬Unpacks e m) ∧ n = .unknown e.kind) ∧
        ∀ e', Alike e e' → ofEvent? e' = some n := by
  refine ⟨fun s hs => exists_announced (h s hs),?_⟩
  obtain ⟨n,hn⟩ := exists_ofEvent? h
  refine ⟨n,hn,?_,fun e' halike => halike.ofEvent?_eq.trans hn⟩
  rcases unpacks_of_ofEvent? hn with rfl | hunpacks
  · refine .inr ⟨fun m hm => hm.ne_unknown e.kind ?_,rfl⟩
    exact Option.some.inj (hm.ofEvent?_eq.symm.trans hn)
  · exact .inl hunpacks

/-- A subscription with an interval of one and a half seconds, among payloads of other kinds. -/
def crowded : Event where
  kind := 1
  subscribed := some {
    frameworkId := some ⟨"F1"⟩
    heartbeatIntervalSeconds := some ⟨0x3FF8000000000000⟩ }
  rescind := some {}
  error := some ⟨"gone"⟩

theorem ofEvent?_crowded :
    (∀ s ∈ crowded.subscribed, ∀ x ∈ s.heartbeatIntervalSeconds, ¬Duration.Exceeded x) ∧
      Alike crowded { kind := 1, subscribed := crowded.subscribed } ∧
      ofEvent? { kind := 1, subscribed := crowded.subscribed } =
        some (.subscribed ⟨"F1"⟩ (some ⟨1500000000,by decide⟩) none) := by
  have hsmall : ∀ s ∈ crowded.subscribed, ∀ x ∈ s.heartbeatIntervalSeconds,
      ¬Duration.Exceeded x := by
    rintro _ ⟨⟩ _ ⟨⟩ hx
    exact absurd hx.le (by decide +kernel)
  have halike : Alike crowded { kind := 1, subscribed := crowded.subscribed } :=
    ⟨rfl,fun _ => rfl,nofun,nofun,nofun,nofun,nofun,nofun,nofun,nofun⟩
  obtain ⟨_,n,hn,_,hindependent⟩ := ofEvent?_decided crowded hsmall
  have hvalue : ofEvent? crowded =
      some (.subscribed ⟨"F1"⟩ (some ⟨1500000000,by decide⟩) none) := by decide +kernel
  exact ⟨hsmall,halike,(hindependent _ halike).trans (hn.symm.trans hvalue)⟩

end Notice
end ClusterFramework
