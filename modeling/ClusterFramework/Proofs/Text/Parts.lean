import ClusterFramework.Text.Blank
import ClusterFramework.Text.Decimal
import ClusterFramework.Text.Split
import Mathlib.Data.List.TakeWhile

/-! Texts taken apart: cut at a separator, stripped of the blanks at their ends, and read as
numbers. What comes out is said without the functions that do it, and they are shown to give
exactly that. -/
namespace ClusterFramework
namespace Text

/-- The parts that stand between the separators of a text. -/
structure Separated (separator : Char) (cs : List Char) (parts : List (List Char)) : Prop where
  ne_nil : parts ≠ []
  joined : joinWith separator parts = cs
  plain : ∀ part ∈ parts, separator ∉ part

section

variable {separator : Char} {cs part : List Char} {parts : List (List Char)}

theorem splitAt_of_not_mem (h : separator ∉ part) : splitAt separator part = [part] := by
  induction part with
  | nil => rfl
  | cons c part ih =>
    simp only [List.mem_cons,not_or] at h
    rw [splitAt,if_neg (Ne.symm h.1),ih h.2]

theorem splitAt_append (h : separator ∉ part) (rest : List Char) :
    splitAt separator (part ++ separator :: rest) = part :: splitAt separator rest := by
  induction part with
  | nil => simp [splitAt]
  | cons c part ih =>
    simp only [List.mem_cons,not_or] at h
    rw [List.cons_append,splitAt,if_neg (Ne.symm h.1),ih h.2]

theorem not_mem_of_mem_splitAt (h : part ∈ splitAt separator cs) : separator ∉ part := by
  induction cs generalizing part with
  | nil =>
    rw [splitAt,List.mem_singleton] at h
    simp [h]
  | cons c cs ih =>
    rw [splitAt] at h
    split at h
    · rcases List.mem_cons.mp h with rfl | h
      · exact List.not_mem_nil
      · exact ih h
    · rename_i hc
      cases hparts : splitAt separator cs with
      | nil => exact absurd hparts (splitAt_ne_nil separator cs)
      | cons first parts =>
        rw [hparts] at h ih
        rcases List.mem_cons.mp h with rfl | h
        · rw [List.mem_cons,not_or]
          exact ⟨Ne.symm hc,ih List.mem_cons_self⟩
        · exact ih (List.mem_cons_of_mem first h)

theorem splitAt_joinWith (hne : parts ≠ []) (h : ∀ part ∈ parts, separator ∉ part) :
    splitAt separator (joinWith separator parts) = parts := by
  induction parts with
  | nil => exact absurd rfl hne
  | cons part parts ih =>
    have hpart : separator ∉ part := h part List.mem_cons_self
    cases parts with
    | nil => exact splitAt_of_not_mem hpart
    | cons next parts =>
      rw [joinWith,splitAt_append hpart,
        ih (List.cons_ne_nil next parts) fun p hp => h p (List.mem_cons_of_mem part hp)]

theorem splitAt_eq_iff : splitAt separator cs = parts ↔ Separated separator cs parts := by
  constructor
  · rintro rfl
    exact ⟨splitAt_ne_nil separator cs,joinWith_splitAt separator cs,
      fun part => not_mem_of_mem_splitAt⟩
  · rintro ⟨hne,rfl,hplain⟩
    exact splitAt_joinWith hne hplain

theorem length_splitAt (separator : Char) (cs : List Char) :
    (splitAt separator cs).length = cs.count separator+1 := by
  induction cs with
  | nil => rfl
  | cons c cs ih =>
    rw [splitAt]
    split
    · rename_i hc
      rw [List.length_cons,ih,hc,List.count_cons_self]
    · rename_i hc
      rw [List.count_cons_of_ne hc,← ih]
      cases hparts : splitAt separator cs with
      | nil => exact absurd hparts (splitAt_ne_nil separator cs)
      | cons part parts => rfl

/-- Behind a separator at the end there is one more part. -/
theorem splitAt_concat (separator : Char) (cs : List Char) :
    splitAt separator (cs ++ [separator]) = splitAt separator cs ++ [[]] := by
  induction cs with
  | nil => simp [splitAt]
  | cons c cs ih =>
    rw [List.cons_append,splitAt,splitAt,ih]
    split
    · rfl
    · cases hparts : splitAt separator cs with
      | nil => exact absurd hparts (splitAt_ne_nil separator cs)
      | cons part parts => rfl

theorem splitOnce?_of_not_mem (h : separator ∉ cs) : splitOnce? separator cs = none := by
  induction cs with
  | nil => rfl
  | cons c cs ih =>
    simp only [List.mem_cons,not_or] at h
    rw [splitOnce?,if_neg (Ne.symm h.1),ih h.2]
    rfl

theorem splitOnce?_append (h : separator ∉ part) (rest : List Char) :
    splitOnce? separator (part ++ separator :: rest) = some (part,rest) := by
  induction part with
  | nil => simp [splitOnce?]
  | cons c part ih =>
    simp only [List.mem_cons,not_or] at h
    rw [List.cons_append,splitOnce?,if_neg (Ne.symm h.1),ih h.2]
    rfl

theorem splitOnce?_eq_none_iff : splitOnce? separator cs = none ↔ separator ∉ cs := by
  refine ⟨fun h hmem => ?_,splitOnce?_of_not_mem⟩
  obtain ⟨before,after,rfl,hplain⟩ := List.eq_append_cons_of_mem hmem
  rw [splitOnce?_append hplain] at h
  cases h

theorem splitOnce?_eq_some_iff {before after : List Char} :
    splitOnce? separator cs = some (before,after) ↔
      cs = before ++ separator :: after ∧ separator ∉ before := by
  constructor
  · intro h
    have hmem : separator ∈ cs := by
      by_contra hmem
      rw [splitOnce?_of_not_mem hmem] at h
      cases h
    obtain ⟨before',after',rfl,hplain⟩ := List.eq_append_cons_of_mem hmem
    rw [splitOnce?_append hplain] at h
    cases h
    exact ⟨rfl,hplain⟩
  · rintro ⟨rfl,hplain⟩
    exact splitOnce?_append hplain after

end

/-- What is left of a text once the blanks at both ends are gone. -/
structure Trimmed (cs core : List Char) : Prop where
  around : ∃ before after, cs = before ++ core ++ after ∧ (∀ c ∈ before, isBlank c) ∧
    ∀ c ∈ after, isBlank c
  first : ∀ c ∈ core.head?, ¬isBlank c
  last : ∀ c ∈ core.getLast?, ¬isBlank c

theorem dropWhile_eq_iff {α : Type} {p : α → Bool} {xs rest : List α} :
    xs.dropWhile p = rest ↔
      (∃ before, xs = before ++ rest ∧ ∀ x ∈ before, p x) ∧ ∀ x ∈ rest.head?, ¬p x := by
  constructor
  · rintro rfl
    refine ⟨⟨xs.takeWhile p,List.takeWhile_append_dropWhile.symm,
      fun x hx => List.mem_takeWhile_imp hx⟩,fun x hx => ?_⟩
    have hstop := List.head?_dropWhile_not p xs
    rw [Option.mem_def.mp hx] at hstop
    simpa using hstop
  · rintro ⟨⟨before,rfl,hbefore⟩,hrest⟩
    rw [List.dropWhile_append_of_pos hbefore]
    cases rest with
    | nil => rfl
    | cons x rest => exact List.dropWhile_cons_of_neg (hrest x rfl)

theorem trimStart_eq_iff {cs rest : List Char} : trimStart cs = rest ↔
    (∃ before, cs = before ++ rest ∧ ∀ c ∈ before, isBlank c) ∧ ∀ c ∈ rest.head?, ¬isBlank c :=
  dropWhile_eq_iff

theorem trimEnd_eq_iff {cs core : List Char} : trimEnd cs = core ↔
    (∃ after, cs = core ++ after ∧ ∀ c ∈ after, isBlank c) ∧
      ∀ c ∈ core.getLast?, ¬isBlank c := by
  rw [trimEnd,List.reverse_eq_iff,dropWhile_eq_iff,List.head?_reverse]
  refine and_congr_left' ⟨?_,?_⟩
  · rintro ⟨after,hcs,hafter⟩
    refine ⟨after.reverse,?_,fun c hc => hafter c (List.mem_reverse.mp hc)⟩
    rw [← List.reverse_reverse cs,hcs,List.reverse_append,List.reverse_reverse]
  · rintro ⟨after,rfl,hafter⟩
    exact ⟨after.reverse,List.reverse_append,fun c hc => hafter c (List.mem_reverse.mp hc)⟩

theorem trim_eq_iff {cs core : List Char} : trim cs = core ↔ Trimmed cs core := by
  constructor
  · intro h
    obtain ⟨⟨after,hmiddle,hafter⟩,hlast⟩ := trimEnd_eq_iff.mp h
    obtain ⟨⟨before,hcs,hbefore⟩,hfirst⟩ := trimStart_eq_iff.mp hmiddle
    refine ⟨⟨before,after,hcs.trans (List.append_assoc ..).symm,hbefore,hafter⟩,
      fun c hc => hfirst c ?_,hlast⟩
    rw [List.head?_append,Option.mem_def.mp hc]
    rfl
  · rintro ⟨⟨before,after,rfl,hbefore,hafter⟩,hfirst,hlast⟩
    cases core with
    | nil =>
      refine trim_eq_nil_of_all (List.all_eq_true.mpr fun c hc => ?_)
      rw [List.append_nil] at hc
      exact (List.mem_append.mp hc).elim (hbefore c) (hafter c)
    | cons c core =>
      have hstart : trimStart (before ++ (c :: core) ++ after) = c :: core ++ after :=
        trimStart_eq_iff.mpr ⟨⟨before,List.append_assoc ..,hbefore⟩,hfirst⟩
      rw [trim,hstart]
      exact trimEnd_eq_iff.mpr ⟨⟨after,rfl,hafter⟩,hlast⟩

/-- A text that no blank begins or ends is left as it is. -/
theorem Trimmed.refl {cs : List Char} (hfirst : ∀ c ∈ cs.head?, ¬isBlank c)
    (hlast : ∀ c ∈ cs.getLast?, ¬isBlank c) : Trimmed cs cs :=
  ⟨⟨[],[],by simp,nofun,nofun⟩,hfirst,hlast⟩

/-- A number as it may be written: one or more digits, perhaps after a plus sign. -/
inductive Denotes : List Char → Nat → Prop
  | digits {ds : List Char} : ds ≠ [] → (∀ d ∈ ds, d.isDigit) →
      Denotes ds (Nat.ofDigitChars 10 ds 0)
  | plus {ds : List Char} : ds ≠ [] → (∀ d ∈ ds, d.isDigit) →
      Denotes ('+' :: ds) (Nat.ofDigitChars 10 ds 0)

theorem natural?_eq_some_iff {cs : List Char} {n : Nat} : natural? cs = some n ↔
    cs ≠ [] ∧ (∀ c ∈ cs, c.isDigit) ∧ Nat.ofDigitChars 10 cs 0 = n := by
  simp only [natural?,Option.ite_none_right_eq_some,Option.some.injEq,List.all_eq_true,and_assoc]

theorem naturalBelow?_eq_some_iff {bound n : Nat} {cs : List Char} :
    naturalBelow? bound cs = some n ↔ Denotes cs n ∧ n < bound := by
  unfold naturalBelow?
  rw [Option.filter_eq_some_iff,decide_eq_true_iff]
  refine and_congr_left' ⟨fun h => ?_,?_⟩
  · split at h <;> obtain ⟨hne,hdigits,rfl⟩ := natural?_eq_some_iff.mp h
    · exact .plus hne hdigits
    · exact .digits hne hdigits
  · rintro (⟨hne,hdigits⟩ | ⟨hne,hdigits⟩)
    · rw [natural?_eq_some_iff]
      split
      · exact absurd (hdigits '+' List.mem_cons_self) (by decide)
      · exact ⟨hne,hdigits,rfl⟩
    · exact natural?_eq_some_iff.mpr ⟨hne,hdigits,rfl⟩

theorem denotes_toDigits (n : Nat) : Denotes (Nat.toDigits 10 n) n := by
  obtain ⟨hne,hdigits,hvalue⟩ := natural?_eq_some_iff.mp (natural?_toDigits n)
  have h : Denotes (Nat.toDigits 10 n) (Nat.ofDigitChars 10 (Nat.toDigits 10 n) 0) :=
    .digits hne hdigits
  rwa [hvalue] at h

theorem not_isBlank_of_isDigit {c : Char} (h : c.isDigit) : ¬isBlank c := by
  have hrange : 48 ≤ c.toNat ∧ c.toNat ≤ 57 := by
    simpa [Char.isDigit,UInt32.le_iff_toNat_le] using h
  simp only [isBlank,blanks,List.contains_iff_mem,List.mem_cons,List.not_mem_nil,or_false]
  omega

theorem trimmed_toDigits (n : Nat) : Trimmed (Nat.toDigits 10 n) (Nat.toDigits 10 n) :=
  .refl
    (fun _ hc => not_isBlank_of_isDigit (isDigit_toDigits n _ (List.mem_of_head? hc)))
    fun _ hc => not_isBlank_of_isDigit (isDigit_toDigits n _ (List.mem_of_getLast? hc))

end Text
end ClusterFramework
