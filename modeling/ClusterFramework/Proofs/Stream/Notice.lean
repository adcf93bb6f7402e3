import ClusterFramework.Proofs.Binary64
import ClusterFramework.Stream.Notice

/-! Events that no notice can be made of: subscriptions that announce a finite interval which
no duration holds. Nothing else about an event stands in the way of its notice. -/
namespace ClusterFramework

open WireForm

theorem le_roundHalfEven_iff {num den n c : Nat} (hd : 0 < den) (hc : 0 < c)
    (hgap : num < n*den → num+den ≤ n*den) :
    n*c ≤ roundHalfEven (num*c) den ↔ n*den ≤ num := by
  obtain ⟨hlow,hhigh⟩ := roundHalfEven_near (num*c) den hd
  generalize roundHalfEven (num*c) den = r at hlow hhigh ⊢
  constructor
  · intro h
    by_contra hlt
    have hshort : (num+den)*c ≤ n*den*c := Nat.mul_le_mul_right c (hgap (Nat.not_le.mp hlt))
    have hn : n*den*c ≤ r*den :=
      calc n*den*c = n*c*den := Nat.mul_right_comm _ _ _
        _ ≤ r*den := Nat.mul_le_mul_right den h
    have hden : den ≤ den*c := Nat.le_mul_of_pos_right den hc
    rw [Nat.add_mul] at hshort
    rw [Nat.mul_assoc] at hhigh
    omega
  · intro h
    have hnum : n*c*den ≤ num*c :=
      calc n*c*den = n*den*c := Nat.mul_right_comm _ _ _
        _ ≤ num*c := Nat.mul_le_mul_right c h
    have hle : 2*(n*c)*den ≤ (2*r+1)*den := by rw [Nat.mul_assoc]; omega
    have := Nat.le_of_mul_le_mul_right hle hd
    omega

namespace Duration

/-- A finite number of seconds, `2^64` or more. Magnitudes count in units of `2^-1074`. -/
structure Exceeded (x : Binary64) : Prop where
  finite : x.isFinite
  nonneg : ¬x.isNegative
  le : 2^64*2^1074 ≤ x.mantissa*2^x.scale

theorem Exceeded.not_isZero {x : Binary64} (hx : Exceeded x) : ¬x.isZero := by
  intro hz
  have hle := hx.le
  rw [Binary64.mantissa_eq_zero_iff.mpr hz,Nat.zero_mul] at hle
  generalize 1074 = e at hle
  exact absurd hle (Nat.not_le.mpr (Nat.mul_pos (Nat.two_pow_pos 64) (Nat.two_pow_pos e)))

theorem ofSeconds?_eq_none_iff (x : Binary64) :
    ofSeconds? x = none ↔ 2^64*2^1074 ≤ x.mantissa*2^x.scale := by
  unfold ofSeconds?
  generalize 1074 = e
  have hgap (h : x.mantissa*2^x.scale < 2^64*2^e) : x.mantissa*2^x.scale+2^e ≤ 2^64*2^e := by
    have hlt : x.mantissa*2^x.scale < 2^53*2^(11+e) := by rw [pow_add,← Nat.mul_assoc]; exact h
    calc x.mantissa*2^x.scale+2^e ≤ x.mantissa*2^x.scale+2^(11+e) :=
          Nat.add_le_add_left (Nat.pow_le_pow_right (by decide) (by omega)) _
      _ ≤ 2^53*2^(11+e) := Binary64.scaled_add_le hlt
      _ = 2^64*2^e := by ring
  simp only [dite_eq_right_iff,reduceCtorEq,imp_false,Nat.not_lt]
  exact le_roundHalfEven_iff (Nat.two_pow_pos e) (by decide) hgap

example : (ofSeconds? ⟨0x43EFFFFFFFFFFFFF⟩).map nanos = some ((2^64-2^11)*10^9) := by
  decide +kernel

end Duration

namespace Notice

theorem interval?_eq_none_iff (seconds : Option Binary64) :
    interval? seconds = none ↔ ∃ x, seconds = some x ∧ Duration.Exceeded x := by
  cases seconds with
  | none => simp [interval?]
  | some x =>
    have hcounts : interval? (some x) = none ↔
        (x.isFinite ∧ Binary64.lt .zero x) ∧ Duration.ofSeconds? x = none := by
      by_cases hc : x.isFinite ∧ Binary64.lt .zero x <;>
        simp [interval?,Option.filter_some,Bool.and_eq_true,hc]
    rw [hcounts,Duration.ofSeconds?_eq_none_iff]
    constructor
    · rintro ⟨⟨hfinite,hpos⟩,hle⟩
      exact ⟨x,rfl,hfinite,((Binary64.zero_lt_iff hfinite).mp hpos).1,hle⟩
    · rintro ⟨y,hy,hx⟩
      obtain rfl := Option.some.inj hy
      exact ⟨⟨hx.finite,(Binary64.zero_lt_iff hx.finite).mpr ⟨hx.nonneg,hx.not_isZero⟩⟩,hx.le⟩

theorem ofEvent?_eq_none_iff (e : Event) :
    ofEvent? e = none ↔ e.kindOf = .subscribed ∧ ∃ s framework x,
      e.subscribed = some s ∧ s.frameworkId = some framework ∧
        s.heartbeatIntervalSeconds = some x ∧ Duration.Exceeded x := by
  unfold ofEvent?
  cases e.kindOf with
  | subscribed =>
    cases e.subscribed with
    | none => simp
    | some s => cases hf : s.frameworkId <;> simp [ofSubscribed?,hf,interval?_eq_none_iff]
  | _ => simp

/-- A subscription that announces an interval of `2^64` seconds. -/
def endless : Octets :=
  [0x08,0x01,0x12,0x0F,0x0A,0x04,0x0A,0x02,0x46,0x31,0x11,0,0,0,0,0,0,0xF0,0x43]

theorem no_notice_of_endless : ∃ e : Event,decode? endless = some e ∧ ofEvent? e = none :=
  let s : Event.Subscribed :=
    {frameworkId := some ⟨"F1"⟩,heartbeatIntervalSeconds := some ⟨0x43F0000000000000⟩}
  ⟨{kind := 1,subscribed := some s},by decide +kernel,by decide +kernel⟩

end Notice
end ClusterFramework
