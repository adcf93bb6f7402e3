import ClusterFramework.Definition.Validation
import ClusterFramework.Proofs.Text.Parts
import Mathlib.Data.List.Forall2

/-! Which texts give port ranges. What the bounds of a part are is a relation of its own, and
reading finds them exactly if there are any. -/
namespace ClusterFramework
namespace Definition

open Text

/-- The bounds that a part gives: one number is both of them, and two stand around the first
hyphen. Blanks around a part do not matter, nor do those around its two numbers. -/
inductive Bounds : List Char → Nat → Nat → Prop
  | number {part core : List Char} {n : Nat} : Trimmed part core → Denotes core n → Bounds part n n
  | range {part before after first last : List Char} {b e : Nat} :
    Trimmed part (before ++ '-' :: after) → '-' ∉ before →
      Trimmed before first → Denotes first b → Trimmed after last → Denotes last e →
        Bounds part b e

/-- Ports are counted from one, and a range does not run backwards. -/
structure IsPortRange (part : List Char) (first last : Nat) : Prop where
  bounds : Bounds part first last
  pos : 1 ≤ first
  le : first ≤ last
  last_le : last ≤ 65535

theorem hyphen_not_mem_of_denotes {cs : List Char} {n : Nat} (h : Denotes cs n) : '-' ∉ cs := by
  rcases h with ⟨_,hdigits⟩ | ⟨_,hdigits⟩
  · exact fun hmem => absurd (hdigits '-' hmem) (by decide)
  · rw [List.mem_cons,not_or]
    exact ⟨by decide,fun hmem => absurd (hdigits '-' hmem) (by decide)⟩

theorem port?_eq_some_iff {cs : List Char} {n : Nat} :
    port? cs = some n ↔ Denotes cs n ∧ n < UInt64.size :=
  naturalBelow?_eq_some_iff

theorem bounds?_eq_some_iff {part : List Char} {b e : Nat} :
    bounds? (trim part) = some (b,e) ↔ Bounds part b e ∧ b < UInt64.size ∧ e < UInt64.size := by
  have htrim : Trimmed part (trim part) := trim_eq_iff.mp rfl
  rw [bounds?]
  cases hsplit : splitOnce? '-' (trim part) with
  | none =>
    have hplain := splitOnce?_eq_none_iff.mp hsplit
    simp only [Option.map_eq_some_iff,port?_eq_some_iff,Prod.mk.injEq]
    constructor
    · rintro ⟨n,⟨hn,hlt⟩,rfl,rfl⟩
      exact ⟨.number htrim hn,hlt,hlt⟩
    · rintro ⟨hbounds,hlt,_⟩
      cases hbounds with
      | number hcore hn =>
        rw [trim_eq_iff.mpr hcore]
        exact ⟨b,⟨hn,hlt⟩,rfl,rfl⟩
      | range hcore =>
        rw [trim_eq_iff.mpr hcore] at hplain
        exact absurd (List.mem_append_right _ List.mem_cons_self) hplain
  | some cut =>
    obtain ⟨before,after⟩ := cut
    obtain ⟨hcut,hplain⟩ := splitOnce?_eq_some_iff.mp hsplit
    simp only [Option.bind_eq_bind,Option.bind_eq_some_iff,port?_eq_some_iff,Option.pure_def,
      Option.some.injEq,Prod.mk.injEq]
    constructor
    · rintro ⟨b',⟨hb,hltb⟩,e',⟨he,hlte⟩,rfl,rfl⟩
      rw [hcut] at htrim
      exact ⟨.range htrim hplain (trim_eq_iff.mp rfl) hb (trim_eq_iff.mp rfl) he,hltb,hlte⟩
    · rintro ⟨hbounds,hltb,hlte⟩
      cases hbounds with
      | number hcore hn =>
        rw [trim_eq_iff.mpr hcore] at hcut
        exact absurd (hcut ▸ List.mem_append_right _ List.mem_cons_self)
          (hyphen_not_mem_of_denotes hn)
      | range hcore hplain' hfirst hb hlast he =>
        rw [trim_eq_iff.mpr hcore,splitOnce?_append hplain'] at hsplit
        cases hsplit
        rw [trim_eq_iff.mpr hfirst,trim_eq_iff.mpr hlast]
        exact ⟨b,⟨hb,hltb⟩,e,⟨he,hlte⟩,rfl,rfl⟩

theorem portRange?_eq_some_iff {part : List Char} {r : UInt64 × UInt64} :
    portRange? part = some r ↔ IsPortRange part r.1.toNat r.2.toNat := by
  simp only [portRange?,Option.map_eq_some_iff,Option.filter_eq_some_iff,Prod.exists,
    bounds?_eq_some_iff,Bool.and_eq_true,decide_eq_true_eq]
  constructor
  · rintro ⟨b,e,⟨⟨hbounds,hltb,hlte⟩,⟨hne,hle⟩,hlast⟩,rfl⟩
    dsimp only
    rw [UInt64.toNat_ofNat_of_lt' hltb,UInt64.toNat_ofNat_of_lt' hlte]
    exact ⟨hbounds,Nat.pos_of_ne_zero hne,hle,hlast⟩
  · rintro ⟨hbounds,hpos,hle,hlast⟩
    refine ⟨r.1.toNat,r.2.toNat,⟨⟨hbounds,r.1.toNat_lt_size,r.2.toNat_lt_size⟩,
      ⟨Nat.ne_of_gt hpos,hle⟩,hlast⟩,?_⟩
    rw [UInt64.ofNat_toNat,UInt64.ofNat_toNat]

theorem mapM_eq_some_iff {α β : Type} {f : α → Option β} {as : List α} {bs : List β} :
    as.mapM f = some bs ↔ List.Forall₂ (fun a b => f a = some b) as bs := by
  induction as generalizing bs with
  | nil => cases bs <;> simp
  | cons a as ih =>
    simp only [List.mapM_cons,Option.bind_eq_bind,Option.bind_eq_some_iff,ih,Option.pure_def,
      Option.some.injEq,List.forall₂_cons_left_iff]
    constructor
    · rintro ⟨b,hb,bs',hbs,rfl⟩
      exact ⟨b,bs',hb,hbs,rfl⟩
    · rintro ⟨b,bs',hb,hbs,rfl⟩
      exact ⟨b,hb,bs',hbs,rfl⟩

theorem exists_forall₂_iff {α β : Type} {R : α → β → Prop} {as : List α} :
    (∃ bs, List.Forall₂ R as bs) ↔ ∀ a ∈ as, ∃ b, R a b := by
  induction as with
  | nil => simp
  | cons a as ih =>
    rw [List.forall_mem_cons,← ih]
    constructor
    · rintro ⟨_,h⟩
      cases h with
      | cons hb hbs => exact ⟨⟨_,hb⟩,_,hbs⟩
    · rintro ⟨⟨b,hb⟩,bs,hbs⟩
      exact ⟨b :: bs,.cons hb hbs⟩

theorem exists_isPortRange_iff {part : List Char} :
    (∃ r : UInt64 × UInt64, IsPortRange part r.1.toNat r.2.toNat) ↔ ∃ b e, IsPortRange part b e := by
  constructor
  · rintro ⟨r,h⟩
    exact ⟨_,_,h⟩
  · rintro ⟨b,e,h⟩
    have he : e < UInt64.size := Nat.lt_of_le_of_lt h.last_le (by decide)
    have hb : b < UInt64.size := Nat.lt_of_le_of_lt h.le he
    refine ⟨(.ofNat b,.ofNat e),?_⟩
    dsimp only
    rwa [UInt64.toNat_ofNat_of_lt' hb,UInt64.toNat_ofNat_of_lt' he]

section

variable {s : String}

theorem readPortRanges_eq_ok_iff {rs : List (UInt64 × UInt64)} :
    readPortRanges s = .ok rs ↔ List.Forall₂
      (fun part r => IsPortRange part r.1.toNat r.2.toNat) (splitAt ',' s.toList) rs := by
  simp only [← portRange?_eq_some_iff,← mapM_eq_some_iff]
  rw [readPortRanges,portRanges?]
  cases (splitAt ',' s.toList).mapM portRange? <;> simp

theorem exists_readPortRanges_iff : (∃ rs, readPortRanges s = .ok rs) ↔
    ∀ part ∈ splitAt ',' s.toList, ∃ b e, IsPortRange part b e := by
  simp only [readPortRanges_eq_ok_iff,exists_forall₂_iff,exists_isPortRange_iff]

theorem readPortRanges_eq_error_iff {e : SpecError} :
    readPortRanges s = .error e ↔ e = .badPortRange s ∧ ¬∃ rs, readPortRanges s = .ok rs := by
  rw [readPortRanges]
  cases portRanges? s <;> simp [eq_comm]

end

theorem isPortRange_printed {b e : Nat} (hpos : 1 ≤ b) (hle : b ≤ e) (hlast : e ≤ 65535) :
    IsPortRange (Nat.toDigits 10 b ++ '-' :: Nat.toDigits 10 e) b e := by
  have htrimmed : Trimmed (Nat.toDigits 10 b ++ '-' :: Nat.toDigits 10 e)
      (Nat.toDigits 10 b ++ '-' :: Nat.toDigits 10 e) := by
    refine .refl (fun c hc => (trimmed_toDigits b).first c ?_)
      fun c hc => (trimmed_toDigits e).last c ?_
    · rwa [List.head?_append_of_ne_nil _ Nat.toDigits_ne_nil] at hc
    · rwa [List.getLast?_append_cons,List.getLast?_cons_of_ne_nil Nat.toDigits_ne_nil] at hc
  have hhyphen : '-' ∉ Nat.toDigits 10 b := hyphen_not_mem_of_denotes (denotes_toDigits b)
  exact ⟨.range htrimmed hhyphen (trimmed_toDigits b) (denotes_toDigits b) (trimmed_toDigits e)
    (denotes_toDigits e),hpos,hle,hlast⟩

theorem comma_not_mem_printed (b e : Nat) :
    ',' ∉ Nat.toDigits 10 b ++ '-' :: Nat.toDigits 10 e := by
  have hdigits (n : Nat) : ',' ∉ Nat.toDigits 10 n := fun h =>
    absurd (isDigit_toDigits n ',' h) (by decide)
  simp [hdigits]

theorem readPortRanges_print {rs : List (UInt64 × UInt64)} (hne : rs ≠ [])
    (h : ∀ r ∈ rs, 1 ≤ r.1.toNat ∧ r.1.toNat ≤ r.2.toNat ∧ r.2.toNat ≤ 65535) :
    readPortRanges (printPortRanges rs) = .ok rs := by
  rw [readPortRanges_eq_ok_iff,printPortRanges,String.toList_ofList,splitAt_joinWith]
  · rw [List.forall₂_map_left_iff,List.forall₂_same]
    exact fun r hr => isPortRange_printed (h r hr).1 (h r hr).2.1 (h r hr).2.2
  · simpa using hne
  · intro part hpart
    obtain ⟨r,_,rfl⟩ := List.mem_map.mp hpart
    exact comma_not_mem_printed r.1.toNat r.2.toNat

/-- A text gives port ranges exactly if each of its parts between commas does, and then they are
those of its parts, in order; otherwise the error shows the whole text. Ranges that are printed
are read back. -/
theorem readPortRanges_decided (s : String) :
    (∃ parts, (∀ ps, Separated ',' s.toList ps ↔ ps = parts) ∧
      ((∃ rs, readPortRanges s = .ok rs) ↔ ∀ part ∈ parts, ∃ b e, IsPortRange part b e) ∧
      ∀ rs, readPortRanges s = .ok rs ↔
        List.Forall₂ (fun part r => IsPortRange part r.1.toNat r.2.toNat) parts rs) ∧
    (∀ e, readPortRanges s = .error e ↔ e = .badPortRange s ∧ ¬∃ rs, readPortRanges s = .ok rs) ∧
    ∀ rs : List (UInt64 × UInt64), rs ≠ [] →
      (∀ r ∈ rs, 1 ≤ r.1.toNat ∧ r.1.toNat ≤ r.2.toNat ∧ r.2.toNat ≤ 65535) →
        readPortRanges (printPortRanges rs) = .ok rs := by
  refine ⟨⟨splitAt ',' s.toList,fun ps => ?_,exists_readPortRanges_iff,
    fun rs => readPortRanges_eq_ok_iff⟩,fun e => readPortRanges_eq_error_iff,
    fun rs => readPortRanges_print⟩
  rw [← splitAt_eq_iff,eq_comm]

/-- Blanks, plus signs and zeros in front do not matter. -/
example : readPortRanges " 8080 ,\u200331000 -\t+031010" = .ok [(8080,8080),(31000,31010)] := by
  decide +kernel

end Definition
end ClusterFramework
