import ClusterFramework.Binary64.Printed
import ClusterFramework.Json.Value
import ClusterFramework.Text.Decimal

/-! Each token is read back from its printed text, whatever follows. Nothing closes a numeral,
so that what follows one may not begin as if it went on. -/
namespace ClusterFramework
namespace Json

/-- What an escaped character is read as: a short escape names it, a long one has its
number. -/
def pieceOf (c : Char) : Piece :=
  if c.toNat < 32 ∧ c ∉ ['\x08','\x0c','\n','\r','\t'] then .code c.toNat else .char c

/-- The last two digits of a long escape are all that varies. -/
theorem longEscape_eq : ∀ n < 32,
    (if n < 16 then ['\\','u','0','0','0'] ++ Nat.toDigits 16 n
      else ['\\','u','0','0'] ++ Nat.toDigits 16 n) =
    ['\\','u','0','0',if n < 16 then '0' else '1',(n%16).digitChar] := by
  decide

theorem code?_longEscape : ∀ n < 32,
    code? '0' '0' (if n < 16 then '0' else '1') (n%16).digitChar = some n := by
  decide

theorem pieces?_longEscape {c : Char} (hc : c.toNat < 32) (rest : List Char) :
    pieces? (['\\','u','0','0',if c.toNat < 16 then '0' else '1',(c.toNat%16).digitChar] ++ rest) =
      (pieces? rest).map fun (ps,rest) => (.code c.toNat :: ps,rest) := by
  simp only [List.cons_append,List.nil_append,pieces?,code?_longEscape _ hc,Option.bind_some]

theorem pieces?_escapeChar (c : Char) (rest : List Char) :
    pieces? (escapeChar c ++ rest) =
      (pieces? rest).map fun (ps,rest) => (pieceOf c :: ps,rest) := by
  fun_cases escapeChar c with
  | case8 c _ _ hb hf hn hr ht hlow =>
    have hc : c.toNat < 32 := by omega
    have hp : pieceOf c = .code c.toNat := if_pos ⟨hc,by simp_all⟩
    have hl := longEscape_eq _ hc
    rw [if_pos hlow] at hl
    rw [hl,pieces?_longEscape hc,hp]
  | case9 c _ _ hb hf hn hr ht hlow hc =>
    have hp : pieceOf c = .code c.toNat := if_pos ⟨hc,by simp_all⟩
    have hl := longEscape_eq _ hc
    rw [if_neg hlow] at hl
    rw [hl,pieces?_longEscape hc,hp]
  | case10 c hquote hslash _ _ _ _ _ _ hc =>
    have hp : pieceOf c = .char c := if_neg fun h => hc h.1
    rw [List.singleton_append,pieces?,if_neg (not_or.mpr ⟨hc,hslash⟩),hp]
    · exact hquote
    · exact fun _ _ _ _ _ h => absurd h hslash
    · exact fun _ _ h => absurd h hslash
  | _ => rfl

theorem pieces?_flatMap_escapeChar (cs rest : List Char) :
    pieces? (cs.flatMap escapeChar ++ '"' :: rest) = some (cs.map pieceOf,rest) := by
  induction cs with
  | nil => rfl
  | cons c cs ih => simp [pieces?_escapeChar,ih]

theorem join?_code {n : Nat} (h : n < 0xD800) (ps : List Piece) :
    join? (.code n :: ps) = (join? ps).map (Char.ofNat n :: ·) := by
  rcases ps with _ | ⟨_ | m,ps⟩ <;> simp [join?,h]

theorem join?_map_pieceOf (cs : List Char) : join? (cs.map pieceOf) = some cs := by
  induction cs with
  | nil => rfl
  | cons c cs ih =>
    rw [List.map_cons,pieceOf]
    split
    · rename_i hc
      rw [join?_code (by omega),ih,Option.map_some,Char.ofNat_toNat]
    · simp [join?,ih]

theorem token?_printString (s : String) (rest : List Char) :
    token? (printString s ++ rest) = some (.string (some s),rest) := by
  simp [printString,token?,pieces?_flatMap_escapeChar,join?_map_pieceOf]

end Json

namespace Numeral

/-- Digits are all that stands where digits belong, and the integer part and an exponent have
some. -/
structure Spelled (n : Numeral) : Prop where
  whole_ne_nil : n.whole ≠ []
  whole : ∀ c ∈ n.whole, c.isDigit
  fraction : ∀ c ∈ n.fraction, c.isDigit
  exponent : ∀ e ∈ n.exponent, e.2 ≠ [] ∧ ∀ c ∈ e.2, c.isDigit

/-- Such a numeral is refused. -/
def LeadingZero (n : Numeral) : Prop := n.whole.head? = some '0' ∧ 1 < n.whole.length

instance (n : Numeral) : Decidable n.LeadingZero := inferInstanceAs (Decidable (_ ∧ _))

end Numeral
namespace Json

/-- A numeral does not go on with such a text. -/
def EndsNumeral (rest : List Char) : Prop :=
  ∀ c ∈ rest.head?, ¬c.isDigit ∧ c ≠ '.' ∧ c ≠ 'e' ∧ c ≠ 'E'

def Digits (ds : List Char) : Prop := ds ≠ [] ∧ ∀ d ∈ ds, d.isDigit

theorem Digits.exists_cons {ds : List Char} (h : Digits ds) (rest : List Char) :
    ∃ d cs, d.isDigit ∧ ds ++ rest = d :: cs := by
  obtain ⟨d,ds',rfl⟩ := List.exists_cons_of_ne_nil h.1
  exact ⟨d,ds' ++ rest,h.2 d List.mem_cons_self,rfl⟩

/-- Digits are not taken for a sign. -/
theorem Digits.append_ne {ds : List Char} (h : Digits ds) {c : Char} (hc : ¬c.isDigit)
    (rest cs : List Char) : ds ++ rest ≠ c :: cs := by
  obtain ⟨d,ds',hd,hds⟩ := h.exists_cons rest
  intro he
  rw [hds,List.cons.injEq] at he
  exact hc (he.1 ▸ hd)

theorem splitDigits_append {ds rest : List Char} (h : ∀ c ∈ ds, c.isDigit)
    (hr : ∀ c ∈ rest.head?, ¬c.isDigit) : splitDigits (ds ++ rest) = (ds,rest) := by
  have htake : rest.takeWhile Char.isDigit = [] := by
    cases rest with
    | nil => rfl
    | cons c rest => exact List.takeWhile_cons_of_neg (hr c rfl)
  have hdrop : rest.dropWhile Char.isDigit = rest := by
    cases rest with
    | nil => rfl
    | cons c rest => exact List.dropWhile_cons_of_neg (hr c rfl)
  rw [splitDigits,List.takeWhile_append_of_pos h,List.dropWhile_append_of_pos h,htake,hdrop,
    List.append_nil]

theorem fraction?_append {ds rest : List Char} (h : ∀ c ∈ ds, c.isDigit)
    (hr : ∀ c ∈ rest.head?, ¬c.isDigit ∧ c ≠ '.') :
    fraction? ((if ds = [] then [] else '.' :: ds) ++ rest) = some (ds,rest) := by
  by_cases hd : ds = []
  · subst hd
    rw [if_pos rfl,List.nil_append,fraction?]
    exact fun cs he => (hr '.' (by simp [he])).2 rfl
  · rw [if_neg hd,List.cons_append,fraction?,splitDigits_append h fun c hc => (hr c hc).1]
    exact if_neg hd

theorem exponentDigits?_append {ds rest : List Char} (h : Digits ds) (hr : EndsNumeral rest)
    (negative : Bool) :
    exponentDigits? negative (ds ++ rest) = some (some (negative,ds),rest) := by
  simp only [exponentDigits?,splitDigits_append h.2 fun c hc => (hr c hc).1]
  exact if_neg h.1

theorem exponent?_append {e : Option (Bool × List Char)} {rest : List Char}
    (h : ∀ d ∈ e, Digits d.2) (hr : EndsNumeral rest) :
    exponent? (Numeral.exponentText true e ++ rest) = some (e,rest) := by
  match e with
  | none =>
    cases rest with
    | nil => rfl
    | cons c rest =>
      have hc := hr c rfl
      rw [Numeral.exponentText,List.nil_append,exponent?] <;> simp [hc]
  | some (negative,ds) => cases negative <;> exact exponentDigits?_append (h _ rfl) hr _

/-- Neither digits nor a point stand after a fraction. -/
theorem head?_exponentText_append {e : Option (Bool × List Char)} {rest : List Char}
    (hr : EndsNumeral rest) :
    ∀ c ∈ (Numeral.exponentText true e ++ rest).head?, ¬c.isDigit ∧ c ≠ '.' := by
  match e with
  | none => exact fun c hc => ⟨(hr c hc).1,(hr c hc).2.1⟩
  | some (negative,ds) => cases negative <;> simp [Numeral.exponentText]

theorem unsigned?_append {whole ds middle after rest : List Char}
    {e : Option (Bool × List Char)} (hwhole : ∀ c ∈ whole, c.isDigit)
    (hmiddle : ∀ c ∈ middle.head?, ¬c.isDigit) (hfraction : fraction? middle = some (ds,after))
    (hexponent : exponent? after = some (e,rest)) (negative : Bool) :
    unsigned? negative (whole ++ middle) =
      if whole = [] ∨ whole.head? = some '0' ∧ 1 < whole.length then none
      else some (⟨negative,whole,ds,e⟩,rest) := by
  simp only [unsigned?,splitDigits_append hwhole hmiddle,hfraction,Option.bind_some,hexponent,
    Option.map_some]

/-- A digit comes first, so that no sign is read. -/
theorem numeral?_append {ds : List Char} (h : Digits ds) (rest : List Char) :
    numeral? (ds ++ rest) = unsigned? false (ds ++ rest) := by
  rw [numeral?]
  exact h.append_ne (by decide) rest

theorem unsigned?_text {n : Numeral} (h : n.Spelled) {rest : List Char} (hr : EndsNumeral rest) :
    unsigned? n.negative (n.whole ++ ((if n.fraction = [] then [] else '.' :: n.fraction) ++
      (Numeral.exponentText true n.exponent ++ rest))) =
      if n.LeadingZero then none else some (n,rest) := by
  have hexponent := head?_exponentText_append (e := n.exponent) hr
  have hfraction : ∀ c ∈ ((if n.fraction = [] then [] else '.' :: n.fraction) ++
      (Numeral.exponentText true n.exponent ++ rest)).head?, ¬c.isDigit := by
    split
    · exact fun c hc => (hexponent c hc).1
    · simp
  rw [unsigned?_append h.whole hfraction (fraction?_append h.fraction hexponent)
    (exponent?_append h.exponent hr)]
  simp only [h.whole_ne_nil,false_or]
  rfl

theorem numeral?_text {n : Numeral} (h : n.Spelled) {rest : List Char} (hr : EndsNumeral rest) :
    numeral? (n.text true ++ rest) = if n.LeadingZero then none else some (n,rest) := by
  have hu := unsigned?_text h hr
  simp only [Numeral.text,List.append_assoc]
  cases hn : n.negative with
  | true => rwa [hn] at hu
  | false =>
    rw [hn] at hu
    rw [if_neg Bool.false_ne_true,List.nil_append,numeral?_append ⟨h.whole_ne_nil,h.whole⟩,hu]

/-- Only numerals begin with a digit or a minus sign. -/
theorem token?_eq_numeral? {c : Char} (h : c.isDigit ∨ c = '-') (cs : List Char) :
    token? (c :: cs) = (numeral? (c :: cs)).map fun (n,rest) => (.number n,rest) := by
  rw [token?]
  all_goals
    intro cs' he
    rw [(List.cons.inj he).1] at h
    revert h
    decide

theorem exists_text_append {n : Numeral} (h : n.Spelled) (rest : List Char) :
    ∃ c cs, (c.isDigit ∨ c = '-') ∧ n.text true ++ rest = c :: cs := by
  have hwhole : Digits n.whole := ⟨h.whole_ne_nil,h.whole⟩
  simp only [Numeral.text,List.append_assoc]
  cases n.negative with
  | true => exact ⟨'-',_,.inr rfl,rfl⟩
  | false =>
    obtain ⟨d,cs,hd,hcs⟩ := hwhole.exists_cons _
    exact ⟨d,cs,.inl hd,hcs⟩

theorem token?_text {n : Numeral} (h : n.Spelled) {rest : List Char} (hr : EndsNumeral rest) :
    token? (n.text true ++ rest) =
      if n.LeadingZero then none else some (.number n,rest) := by
  obtain ⟨c,cs,hc,hcs⟩ := exists_text_append h rest
  rw [hcs,token?_eq_numeral? hc,← hcs,numeral?_text h hr]
  split <;> rfl

end Json

theorem head?_toDigits_ne {n : Nat} (h : 0 < n) : (Nat.toDigits 10 n).head? ≠ some '0' := by
  induction n using Nat.strongRecOn with
  | ind n ih =>
    by_cases hn : n < 10
    · simp [Nat.toDigits_of_lt_base hn,Nat.ne_of_gt h]
    · have hquotient := ih (n/10) (by omega) (by omega)
      obtain ⟨d,ds,hd⟩ := List.exists_cons_of_ne_nil (Nat.toDigits_ne_nil (b := 10) (n := n/10))
      rw [hd] at hquotient
      rwa [Nat.toDigits_of_base_le (by decide) (by omega),hd,List.cons_append]

namespace Numeral

theorem spelled_ofNat (n : Nat) : (ofNat n).Spelled :=
  ⟨Nat.toDigits_ne_nil,Text.isDigit_toDigits n,by simp [ofNat],by simp [ofNat]⟩

theorem not_leadingZero_ofNat (n : Nat) : ¬(ofNat n).LeadingZero := by
  rintro ⟨hhead,hlength⟩
  rcases Nat.eq_zero_or_pos n with rfl | hn
  · simp [ofNat] at hlength
  · exact head?_toDigits_ne hn hhead

end Numeral
namespace Binary64

theorem isDigit_zeros (n : Nat) : ∀ c ∈ zeros n, c.isDigit := fun c hc => by
  rw [List.eq_of_mem_replicate hc]
  rfl

theorem spelled_positional {ds : List Char} (hne : ds ≠ []) (hds : ∀ c ∈ ds, c.isDigit)
    (exponent : Int) : (positional ds exponent).Spelled := by
  have hnone : ∀ e ∈ (none : Option (Bool × List Char)), e.2 ≠ [] ∧ ∀ c ∈ e.2, c.isDigit :=
    fun _ h => nomatch h
  unfold positional
  split
  · refine ⟨by simp [hne],fun c hc => ?_,by simp,hnone⟩
    exact (List.mem_append.mp hc).elim (hds c) (isDigit_zeros _ c)
  · dsimp only
    split
    · refine ⟨by simp,by simp,fun c hc => ?_,hnone⟩
      exact (List.mem_append.mp hc).elim (isDigit_zeros _ c) (hds c)
    · rename_i hlong
      refine ⟨fun h => ?_,fun c hc => hds c (List.mem_of_mem_take hc),
        fun c hc => hds c (List.mem_of_mem_drop hc),hnone⟩
      have hlength := congrArg List.length h
      simp only [List.length_take,List.length_nil] at hlength
      omega

theorem spelled_scientific {ds : List Char} (hne : ds ≠ []) (hds : ∀ c ∈ ds, c.isDigit)
    (power : Int) : (scientific ds power).Spelled := by
  refine ⟨by simpa [scientific] using hne,fun c hc => hds c (List.mem_of_mem_take hc),
    fun c hc => hds c (List.mem_of_mem_drop hc),fun e he => ?_⟩
  cases he
  exact ⟨Nat.toDigits_ne_nil,Text.isDigit_toDigits _⟩

theorem spelled_numeral (style : Style) (x : Binary64) : (x.numeral style).Spelled := by
  have hmagnitude : (if x.isZero then ⟨false,['0'],['0'],none⟩
      else (x.shortest style.tie).numeral style : Numeral).Spelled := by
    split
    · exact ⟨by simp,by simp,by simp,by simp⟩
    · unfold Decimal.numeral
      dsimp only
      split
      · exact spelled_positional Nat.toDigits_ne_nil (Text.isDigit_toDigits _) _
      · exact spelled_scientific Nat.toDigits_ne_nil (Text.isDigit_toDigits _) _
  exact ⟨hmagnitude.whole_ne_nil,hmagnitude.whole,hmagnitude.fraction,hmagnitude.exponent⟩

end Binary64
end ClusterFramework
