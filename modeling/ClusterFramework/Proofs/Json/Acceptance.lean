import ClusterFramework.Proofs.Json.Grammar
import Mathlib.Data.List.TakeWhile

/-! Nothing but the texts of values is read. What has been read at any moment is completed, by
what is still to come, to a text that follows the grammar; so the grammar is what the reader
decides. -/
namespace ClusterFramework
namespace Json

theorem eq_append_of_splitDigits {cs ds rest : List Char} (h : splitDigits cs = (ds,rest)) :
    cs = ds ++ rest ∧ ∀ d ∈ ds, d.isDigit := by
  cases h
  exact ⟨List.takeWhile_append_dropWhile.symm,fun d hd => List.mem_takeWhile_imp hd⟩

theorem exists_fractionText {cs ds rest : List Char} (h : fraction? cs = some (ds,rest)) :
    ∃ fraction, FractionText fraction ∧ cs = fraction ++ rest := by
  unfold fraction? at h
  split at h
  · rename_i cs
    cases hsplit : splitDigits cs with
    | mk digits tail =>
      obtain ⟨rfl,hdigits⟩ := eq_append_of_splitDigits hsplit
      simp only [hsplit] at h
      split at h
      · cases h
      · rename_i hne
        cases h
        exact ⟨_,.digits ⟨hne,hdigits⟩,rfl⟩
  · cases h
    exact ⟨[],.none,rfl⟩

theorem exists_digits {negative : Bool} {cs rest : List Char} {e : Option (Bool × List Char)}
    (h : exponentDigits? negative cs = some (e,rest)) : ∃ ds, Digits ds ∧ cs = ds ++ rest := by
  cases hsplit : splitDigits cs with
  | mk digits tail =>
    obtain ⟨rfl,hdigits⟩ := eq_append_of_splitDigits hsplit
    simp only [exponentDigits?,hsplit] at h
    split at h
    · cases h
    · rename_i hne
      cases h
      exact ⟨_,⟨hne,hdigits⟩,rfl⟩

theorem exists_exponentText {cs rest : List Char} {e : Option (Bool × List Char)}
    (h : exponent? cs = some (e,rest)) :
    ∃ exponent, ExponentText exponent ∧ cs = exponent ++ rest := by
  unfold exponent? at h
  split at h
  case h_7 =>
    cases h
    exact ⟨[],.none,rfl⟩
  all_goals obtain ⟨ds,hds,rfl⟩ := exists_digits h
  · exact ⟨_,.digits (.inl rfl) (.inr (.inr rfl)) hds,rfl⟩
  · exact ⟨_,.digits (.inl rfl) (.inr (.inl rfl)) hds,rfl⟩
  · exact ⟨_,.digits (.inl rfl) (.inl rfl) hds,rfl⟩
  · exact ⟨_,.digits (.inr rfl) (.inr (.inr rfl)) hds,rfl⟩
  · exact ⟨_,.digits (.inr rfl) (.inr (.inl rfl)) hds,rfl⟩
  · exact ⟨_,.digits (.inr rfl) (.inl rfl) hds,rfl⟩

theorem integer_of_not {whole : List Char} (hdigits : ∀ d ∈ whole, d.isDigit)
    (h : ¬(whole = [] ∨ whole.head? = some '0' ∧ 1 < whole.length)) :
    whole = ['0'] ∨ Digits whole ∧ whole.head? ≠ some '0' := by
  rw [not_or,not_and] at h
  obtain ⟨hne,hzero⟩ := h
  by_cases hhead : whole.head? = some '0'
  · obtain ⟨d,ds,rfl⟩ := List.exists_cons_of_ne_nil hne
    have hlength := hzero hhead
    have hnil : ds = [] := by simpa using hlength
    cases hhead
    exact .inl (by rw [hnil])
  · exact .inr ⟨⟨hne,hdigits⟩,hhead⟩

theorem exists_numberText_of_unsigned? {negative : Bool} {cs rest : List Char} {n : Numeral}
    (h : unsigned? negative cs = some (n,rest)) {sign : List Char}
    (signed : sign = [] ∨ sign = ['-']) :
    ∃ number, NumberText number ∧ sign ++ cs = number ++ rest := by
  cases hsplit : splitDigits cs with
  | mk whole tail =>
    obtain ⟨rfl,hdigits⟩ := eq_append_of_splitDigits hsplit
    simp only [unsigned?,hsplit] at h
    split at h
    · cases h
    · rename_i hwhole
      simp only [Option.bind_eq_some_iff,Option.map_eq_some_iff] at h
      obtain ⟨⟨ds,middle⟩,hfraction,⟨e,rest'⟩,hexponent,he⟩ := h
      cases he
      obtain ⟨fraction,fractional,rfl⟩ := exists_fractionText hfraction
      obtain ⟨exponent,scaled,rfl⟩ := exists_exponentText hexponent
      refine ⟨_,.parts signed (integer_of_not hdigits hwhole) fractional scaled,?_⟩
      simp only [List.append_assoc]

theorem exists_numberText {cs rest : List Char} {n : Numeral} (h : numeral? cs = some (n,rest)) :
    ∃ number, NumberText number ∧ cs = number ++ rest := by
  unfold numeral? at h
  split at h
  · exact exists_numberText_of_unsigned? h (.inr rfl)
  · exact exists_numberText_of_unsigned? h (.inl rfl)

theorem mem_of_shortEscape? {e c : Char} (h : shortEscape? e = some c) :
    e ∈ ['"','\\','/','b','f','n','r','t'] := by
  unfold shortEscape? at h
  split at h
  case h_9 => cases h
  all_goals simp

theorem exists_pieceTexts {cs rest : List Char} {ps : List Piece}
    (h : pieces? cs = some (ps,rest)) :
    ∃ parts : List (List Char), (∀ part ∈ parts, PieceText part) ∧
      cs = parts.flatten ++ '"' :: rest := by
  fun_induction pieces? cs generalizing ps with
  | case1 => cases h
  | case2 rest' =>
    cases h
    exact ⟨[],List.forall_mem_nil _,rfl⟩
  | case3 a b c d rest' ih =>
    simp only [Option.bind_eq_some_iff,Option.map_eq_some_iff] at h
    obtain ⟨n,hn,⟨qs,r⟩,hr,he⟩ := h
    cases he
    obtain ⟨parts,hparts,rfl⟩ := ih hr
    have hdigits := code?_isSome_iff.mp (Option.isSome_of_eq_some hn)
    exact ⟨['\\','u',a,b,c,d] :: parts,List.forall_mem_cons.mpr ⟨.long hdigits,hparts⟩,rfl⟩
  | case4 e rest' _ ih =>
    simp only [Option.bind_eq_some_iff,Option.map_eq_some_iff] at h
    obtain ⟨c,hc,⟨qs,r⟩,hr,he⟩ := h
    cases he
    obtain ⟨parts,hparts,rfl⟩ := ih hr
    have hescape := mem_of_shortEscape? hc
    exact ⟨['\\',e] :: parts,List.forall_mem_cons.mpr ⟨.short hescape,hparts⟩,rfl⟩
  | case5 => cases h
  | case6 c rest' quote _ _ plain ih =>
    simp only [Option.map_eq_some_iff] at h
    obtain ⟨⟨qs,r⟩,hr,he⟩ := h
    cases he
    obtain ⟨parts,hparts,rfl⟩ := ih hr
    rw [not_or,Nat.not_lt] at plain
    exact ⟨[c] :: parts,List.forall_mem_cons.mpr ⟨.plain plain.1 quote plain.2,hparts⟩,rfl⟩

/-- How a token is spelled, whatever number or string it stands for. -/
inductive TokenText : Token → List Char → Prop
  | null : TokenText .null ['n','u','l','l']
  | true : TokenText (.bool true) ['t','r','u','e']
  | false : TokenText (.bool false) ['f','a','l','s','e']
  | number {n : Numeral} {cs : List Char} (h : NumberText cs) : TokenText (.number n) cs
  | string {s : Option String} {cs : List Char} (h : StringText cs) : TokenText (.string s) cs
  | arrayStart : TokenText .arrayStart ['[']
  | arrayEnd : TokenText .arrayEnd [']']
  | objectStart : TokenText .objectStart ['\x7b']
  | objectEnd : TokenText .objectEnd ['\x7d']
  | comma : TokenText .comma [',']
  | colon : TokenText .colon [':']

theorem exists_tokenText {cs rest : List Char} {t : Token} (h : token? cs = some (t,rest)) :
    ∃ text, TokenText t text ∧ cs = text ++ rest := by
  unfold token? at h
  split at h
  case h_10 =>
    simp only [Option.map_eq_some_iff] at h
    obtain ⟨⟨ps,r⟩,hr,he⟩ := h
    cases he
    obtain ⟨parts,hparts,rfl⟩ := exists_pieceTexts hr
    exact ⟨_,.string (.quoted hparts),by simp⟩
  case h_11 =>
    simp only [Option.map_eq_some_iff] at h
    obtain ⟨⟨n,r⟩,hr,he⟩ := h
    cases he
    obtain ⟨number,hnumber,rfl⟩ := exists_numberText hr
    exact ⟨number,.number hnumber,rfl⟩
  all_goals
    cases h
    exact ⟨_,by constructor,rfl⟩

/-- The spellings of tokens, with white space around them. -/
inductive Lexed : List Token → List Char → Prop
  | nil {cs : List Char} (h : Spaces cs) : Lexed [] cs
  | cons {t : Token} {ts : List Token} {before text rest : List Char} (hbefore : Spaces before)
      (h : TokenText t text) (hrest : Lexed ts rest) : Lexed (t :: ts) (before ++ (text ++ rest))

theorem Lexed.space {c : Char} (hc : isSpace c) {ts : List Token} {cs : List Char}
    (h : Lexed ts cs) : Lexed ts (c :: cs) := by
  have hspace := (isSpace_iff c).mp hc
  cases h with
  | nil h => exact .nil (List.forall_mem_cons.mpr ⟨hspace,h⟩)
  | cons hbefore h hrest => exact .cons (List.forall_mem_cons.mpr ⟨hspace,hbefore⟩) h hrest

theorem lexed_of_tokens? {cs : List Char} {ts : List Token} (h : tokens? cs = some ts) :
    Lexed ts cs := by
  fun_induction tokens? cs generalizing ts with
  | case1 =>
    cases h
    exact .nil (List.forall_mem_nil _)
  | case2 c cs hc ih => exact .space hc (ih h)
  | case3 => cases h
  | case4 c cs _ t rest ht _ ih =>
    rw [Option.map_eq_some_iff] at h
    obtain ⟨us,hus,rfl⟩ := h
    obtain ⟨text,htext,hcs⟩ := exists_tokenText ht
    have hbefore : Spaces [] := List.forall_mem_nil _
    rw [hcs]
    exact .cons hbefore htext (ih hus)

/-- What is still to come once a value has been read inside the given containers. With whatever
text of a value before it, it is the rest of an array, and with a key as well that of an object;
then the container that holds it goes on. -/
def Closes : List Frame → List Char → Prop
  | [], cs => Spaces cs
  | .array _ :: fs, cs => ∃ rest, Closes fs rest ∧ ∀ x, WellFormed x →
      ∃ xs, xs ≠ [] ∧ (∀ y ∈ xs, WellFormed y) ∧ x ++ cs = Text.joinWith ',' xs ++ ']' :: rest
  | .object _ _ :: fs, cs => ∃ rest, Closes fs rest ∧ ∀ key x, KeyText key → WellFormed x →
      ∃ ms : List (List Char × List Char), ms ≠ [] ∧ (∀ m ∈ ms, KeyText m.1) ∧
        (∀ m ∈ ms, WellFormed m.2) ∧ key ++ ':' :: (x ++ cs) =
          Text.joinWith ',' (ms.map fun m => m.1 ++ ':' :: m.2) ++ '\x7d' :: rest

/-- What is still to come at a position. -/
def Completes : Position → List Frame → List Char → Prop
  | .before, fs, cs => ∃ x rest, WellFormed x ∧ Closes fs rest ∧ cs = x ++ rest
  | .after _, fs, cs => Closes fs cs

theorem WellFormed.leading {before x : List Char} (hbefore : Spaces before)
    (h : WellFormed x) : WellFormed (before ++ x) := by
  have hafter : Spaces [] := List.forall_mem_nil _
  have hspaced := h.spaced hbefore hafter
  rwa [List.append_nil] at hspaced

theorem WellFormed.trailing {after x : List Char} (hafter : Spaces after)
    (h : WellFormed x) : WellFormed (x ++ after) :=
  have hbefore : Spaces [] := List.forall_mem_nil _
  h.spaced hbefore hafter

theorem joinWith_cons {xs : List (List Char)} (hne : xs ≠ []) (x : List Char) :
    Text.joinWith ',' (x :: xs) = x ++ ',' :: Text.joinWith ',' xs := by
  cases xs with
  | nil => exact absurd rfl hne
  | cons y xs => rfl

section

variable {fs : List Frame} {vs : List Json} {ms : List (Option String × Json)}
  {k : Option String} {before key x cs : List Char}

/-- Whatever value stands before a comma, it is one more element. -/
theorem Closes.element (done : List Json) (hbefore : Spaces before) (hx : WellFormed x)
    (h : Closes (.array vs :: fs) cs) :
    Closes (.array done :: fs) (before ++ ',' :: (x ++ cs)) := by
  obtain ⟨rest,hcloses,hxs⟩ := h
  obtain ⟨xs,hne,hall,hcs⟩ := hxs x hx
  refine ⟨rest,hcloses,fun y hy => ⟨(y ++ before) :: xs,List.cons_ne_nil _ _,?_,?_⟩⟩
  · exact List.forall_mem_cons.mpr ⟨.trailing hbefore hy,hall⟩
  · rw [joinWith_cons hne,hcs]
    simp

theorem Closes.arrayEnd (done : List Json) (hbefore : Spaces before) (h : Closes fs cs) :
    Closes (.array done :: fs) (before ++ ']' :: cs) := by
  refine ⟨cs,h,fun y hy => ⟨[y ++ before],List.cons_ne_nil _ _,?_,by simp [Text.joinWith]⟩⟩
  exact List.forall_mem_singleton.mpr (.trailing hbefore hy)

theorem Closes.member (done : List (Option String × Json)) (k' : Option String)
    (hbefore : Spaces before) (hkey : KeyText key) (hx : WellFormed x)
    (h : Closes (.object ms k :: fs) cs) :
    Closes (.object done k' :: fs) (before ++ ',' :: (key ++ ':' :: (x ++ cs))) := by
  obtain ⟨rest,hcloses,hmembers⟩ := h
  obtain ⟨members,hne,hkeys,hvalues,hcs⟩ := hmembers key x hkey hx
  refine ⟨rest,hcloses,fun key' y hkey' hy =>
    ⟨(key',y ++ before) :: members,List.cons_ne_nil _ _,?_,?_,?_⟩⟩
  · exact List.forall_mem_cons.mpr ⟨hkey',hkeys⟩
  · exact List.forall_mem_cons.mpr ⟨.trailing hbefore hy,hvalues⟩
  · rw [List.map_cons,joinWith_cons (mt List.map_eq_nil_iff.mp hne),hcs]
    simp

theorem Closes.objectEnd (done : List (Option String × Json)) (k' : Option String)
    (hbefore : Spaces before) (h : Closes fs cs) :
    Closes (.object done k' :: fs) (before ++ '\x7d' :: cs) := by
  refine ⟨cs,h,fun key' y hkey' hy =>
    ⟨[(key',y ++ before)],List.cons_ne_nil _ _,?_,?_,by simp [Text.joinWith]⟩⟩
  · exact List.forall_mem_singleton.mpr hkey'
  · exact List.forall_mem_singleton.mpr (.trailing hbefore hy)

/-- The first element, with what closes the array after it, gives the whole of the array. -/
theorem Closes.completes_array (hbefore : Spaces before) (hx : WellFormed x)
    (h : Closes (.array vs :: fs) cs) : Completes .before fs (before ++ '[' :: (x ++ cs)) := by
  obtain ⟨rest,hcloses,hxs⟩ := h
  obtain ⟨xs,hne,hall,hcs⟩ := hxs x hx
  refine ⟨_,rest,.leading hbefore (.array hne hall),hcloses,?_⟩
  rw [hcs]
  simp

theorem Closes.completes_object (hbefore : Spaces before) (hkey : KeyText key)
    (hx : WellFormed x) (h : Closes (.object ms k :: fs) cs) :
    Completes .before fs (before ++ '\x7b' :: (key ++ ':' :: (x ++ cs))) := by
  obtain ⟨rest,hcloses,hmembers⟩ := h
  obtain ⟨members,hne,hkeys,hvalues,hcs⟩ := hmembers key x hkey hx
  refine ⟨_,rest,.leading hbefore (.object hne hkeys hvalues),hcloses,?_⟩
  rw [hcs]
  simp

end

theorem completes_token {t : Token} {ts : List Token} {fs : List Frame} {cs : List Char}
    (hcs : Lexed (t :: ts) cs) (htoken : ∀ text, TokenText t text → WellFormed text)
    (h : ∀ rest, Lexed ts rest → Closes fs rest) : Completes .before fs cs := by
  cases hcs with
  | @cons _ _ before text rest hbefore htext hrest =>
    exact ⟨_,rest,.leading hbefore (htoken text htext),h rest hrest,
      (List.append_assoc ..).symm⟩

theorem Lexed.exists_key {k : Option String} {ts : List Token} {cs : List Char}
    (h : Lexed (.string k :: .colon :: ts) cs) :
    ∃ key rest, KeyText key ∧ Lexed ts rest ∧ cs = key ++ ':' :: rest := by
  cases h with
  | cons hbefore hkey hrest =>
    cases hkey with
    | string hkey =>
      cases hrest with
      | cons hafter hcolon hrest =>
        cases hcolon
        exact ⟨_,_,.spaced hbefore hafter hkey,hrest,by simp⟩

/-- What is still to come is read in step with the tokens, and completes what is under way. -/
theorem completes_of_run {position : Position} {fs : List Frame} {ts : List Token} {v : Json}
    (h : run position fs ts = some v) {cs : List Char} (hcs : Lexed ts cs) :
    Completes position fs cs := by
  fun_induction run position fs ts generalizing cs with
  | case1 v =>
    cases hcs with
    | nil hspaces => exact hspaces
  | case2 fs ts ih =>
    refine completes_token hcs (fun text htext => ?_) fun rest => ih h
    cases htext
    exact .null
  | case3 fs b ts ih =>
    refine completes_token hcs (fun text htext => ?_) fun rest => ih h
    cases htext
    · exact .true
    · exact .false
  | case4 fs n ts ih =>
    refine completes_token hcs (fun text htext => ?_) fun rest => ih h
    cases htext with
    | number hnumber => exact .number hnumber
  | case5 fs s ts ih =>
    refine completes_token hcs (fun text htext => ?_) fun rest => ih h
    cases htext with
    | string hstring => exact .string hstring
  | case6 fs ts ih =>
    cases hcs with
    | cons hbefore hstart hrest =>
      cases hstart
      cases hrest with
      | cons hinside hend hrest =>
        cases hend
        exact ⟨_,_,.leading hbefore (.noElements hinside),ih h hrest,by simp⟩
  | case7 fs ts _ ih =>
    cases hcs with
    | cons hbefore hstart hrest =>
      cases hstart
      obtain ⟨x,rest,hx,hcloses,rfl⟩ := ih h hrest
      have hwhole := hcloses.completes_array hbefore hx
      exact hwhole
  | case8 fs ts ih =>
    cases hcs with
    | cons hbefore hstart hrest =>
      cases hstart
      cases hrest with
      | cons hinside hend hrest =>
        cases hend
        exact ⟨_,_,.leading hbefore (.noMembers hinside),ih h hrest,by simp⟩
  | case9 fs k ts ih =>
    cases hcs with
    | cons hbefore hstart hkeyed =>
      cases hstart
      obtain ⟨key,_,hkey,hrest,rfl⟩ := hkeyed.exists_key
      obtain ⟨x,rest,hx,hcloses,rfl⟩ := ih h hrest
      exact hcloses.completes_object hbefore hkey hx
  | case10 v vs fs ts ih =>
    cases hcs with
    | cons hbefore hcomma hrest =>
      cases hcomma
      obtain ⟨x,rest,hx,hcloses,rfl⟩ := ih h hrest
      have hmore := hcloses.element vs hbefore hx
      exact hmore
  | case11 v vs fs ts ih =>
    cases hcs with
    | cons hbefore hend hrest =>
      cases hend
      exact .arrayEnd vs hbefore (ih h hrest)
  | case12 v ms k fs k' ts ih =>
    cases hcs with
    | cons hbefore hcomma hkeyed =>
      cases hcomma
      obtain ⟨key,_,hkey,hrest,rfl⟩ := hkeyed.exists_key
      obtain ⟨x,rest,hx,hcloses,rfl⟩ := ih h hrest
      exact hcloses.member ms k hbefore hkey hx
  | case13 v ms k fs ts ih =>
    cases hcs with
    | cons hbefore hend hrest =>
      cases hend
      exact .objectEnd ms k hbefore (ih h hrest)
  | case14 => cases h

/-- A text is read exactly if it follows the grammar. -/
theorem parse?_isSome_iff (text : String) : (parse? text).isSome ↔ WellFormed text.toList := by
  constructor
  · intro h
    obtain ⟨v,hv⟩ := Option.isSome_iff_exists.mp h
    obtain ⟨ts,hts,hrun⟩ := Option.bind_eq_some_iff.mp hv
    obtain ⟨x,rest,hx,hrest,hcs⟩ := completes_of_run hrun (lexed_of_tokens? hts)
    rw [hcs]
    exact .trailing hrest hx
  · intro h
    obtain ⟨v,hv⟩ := h.spells
    rw [← String.ofList_toList (s := text),hv.parse?]
    rfl

instance (text : String) : Decidable (WellFormed text.toList) :=
  decidable_of_iff _ (parse?_isSome_iff text)

example : WellFormed " [1E+5,\"\\uD800\"]".toList ∧ ¬WellFormed "[01]".toList := by decide +kernel

end Json
end ClusterFramework
