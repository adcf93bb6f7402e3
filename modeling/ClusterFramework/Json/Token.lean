import ClusterFramework.Text.Hexadecimal
import ClusterFramework.Text.Numeral

/-! The tokens of a JSON text. A string token has no text when its escapes name half of a
surrogate pair: such a string is well-formed but stands for no text. -/
namespace ClusterFramework
namespace Json

inductive Token where
  | null
  | bool (b : Bool)
  | number (n : Numeral)
  | string (s : Option String)
  | arrayStart
  | arrayEnd
  | objectStart
  | objectEnd
  | comma
  | colon
  deriving DecidableEq,Repr

def isSpace (c : Char) : Bool := c = ' ' || c = '\n' || c = '\t' || c = '\r'

/-- A character, or a number from an escape of four digits. -/
inductive Piece where
  | char (c : Char)
  | code (n : Nat)
  deriving DecidableEq,Repr

def code? (a b c d : Char) : Option Nat := do
  let a ← Text.hexValue? a
  let b ← Text.hexValue? b
  let c ← Text.hexValue? c
  let d ← Text.hexValue? d
  pure (((a*16+b)*16+c)*16+d)

def shortEscape? : Char → Option Char
  | '"' => some '"'
  | '\\' => some '\\'
  | '/' => some '/'
  | 'b' => some '\x08'
  | 'f' => some '\x0c'
  | 'n' => some '\n'
  | 'r' => some '\r'
  | 't' => some '\t'
  | _ => none

/-- The pieces up to the closing quote, and what follows it. -/
def pieces? : List Char → Option (List Piece × List Char)
  | [] => none
  | '"' :: rest => some ([],rest)
  | '\\' :: 'u' :: a :: b :: c :: d :: rest =>
    (code? a b c d).bind fun n => (pieces? rest).map fun (ps,rest) => (.code n :: ps,rest)
  | '\\' :: e :: rest =>
    (shortEscape? e).bind fun c => (pieces? rest).map fun (ps,rest) => (.char c :: ps,rest)
  | c :: rest =>
    if c.toNat < 32 ∨ c = '\\' then none
    else (pieces? rest).map fun (ps,rest) => (.char c :: ps,rest)

/-- The characters of the pieces, two halves of a surrogate pair making one. -/
def join? : List Piece → Option (List Char)
  | [] => some []
  | .char c :: ps => (join? ps).map (c :: ·)
  | .code n :: .code m :: ps =>
    if n < 0xD800 ∨ 0xDFFF < n then (join? (.code m :: ps)).map (Char.ofNat n :: ·)
    else if n < 0xDC00 ∧ 0xDC00 ≤ m ∧ m ≤ 0xDFFF then
      (join? ps).map (Char.ofNat (0x10000+(n-0xD800)*1024+(m-0xDC00)) :: ·)
    else none
  | .code n :: ps =>
    if n < 0xD800 ∨ 0xDFFF < n then (join? ps).map (Char.ofNat n :: ·) else none

theorem pieces?_shorter {cs rest : List Char} {ps : List Piece}
    (h : pieces? cs = some (ps,rest)) : rest.length < cs.length := by
  fun_induction pieces? cs generalizing ps with
  | case1 => cases h
  | case2 => cases h; simp
  | case3 a b c d rest' ih =>
    simp only [Option.bind_eq_some_iff,Option.map_eq_some_iff] at h
    obtain ⟨n,_,⟨qs,r⟩,hr,he⟩ := h
    cases he
    have : r.length < _ := ih hr
    simp only [List.length_cons]; omega
  | case4 e rest' _ ih =>
    simp only [Option.bind_eq_some_iff,Option.map_eq_some_iff] at h
    obtain ⟨n,_,⟨qs,r⟩,hr,he⟩ := h
    cases he
    have : r.length < _ := ih hr
    simp only [List.length_cons]; omega
  | case5 => cases h
  | case6 c rest' _ _ _ _ ih =>
    simp only [Option.map_eq_some_iff] at h
    obtain ⟨⟨qs,r⟩,hr,he⟩ := h
    cases he
    have : r.length < _ := ih hr
    simp only [List.length_cons]; omega

def splitDigits (cs : List Char) : List Char × List Char :=
  (cs.takeWhile Char.isDigit,cs.dropWhile Char.isDigit)

/-- The digits of a fraction, if a point is next. -/
def fraction? : List Char → Option (List Char × List Char)
  | '.' :: cs =>
    let (ds,rest) := splitDigits cs
    if ds = [] then none else some (ds,rest)
  | cs => some ([],cs)

def exponentDigits? (negative : Bool) (cs : List Char) :
    Option (Option (Bool × List Char) × List Char) :=
  let (ds,rest) := splitDigits cs
  if ds = [] then none else some (some (negative,ds),rest)

def exponent? : List Char → Option (Option (Bool × List Char) × List Char)
  | 'e' :: '-' :: cs => exponentDigits? true cs
  | 'e' :: '+' :: cs => exponentDigits? false cs
  | 'e' :: cs => exponentDigits? false cs
  | 'E' :: '-' :: cs => exponentDigits? true cs
  | 'E' :: '+' :: cs => exponentDigits? false cs
  | 'E' :: cs => exponentDigits? false cs
  | cs => some (none,cs)

/-- An unsigned numeral; its integer part has no leading zero. -/
def unsigned? (negative : Bool) (cs : List Char) : Option (Numeral × List Char) :=
  let (whole,rest) := splitDigits cs
  if whole = [] ∨ (whole.head? = some '0' ∧ 1 < whole.length) then none
  else
    (fraction? rest).bind fun (fraction,rest) =>
      (exponent? rest).map fun (exponent,rest) => (⟨negative,whole,fraction,exponent⟩,rest)

def numeral? : List Char → Option (Numeral × List Char)
  | '-' :: cs => unsigned? true cs
  | cs => unsigned? false cs

theorem splitDigits_length (cs : List Char) :
    (splitDigits cs).1.length+(splitDigits cs).2.length = cs.length := by
  rw [← List.length_append,splitDigits,List.takeWhile_append_dropWhile]

theorem fraction?_le {cs ds rest : List Char} (h : fraction? cs = some (ds,rest)) :
    rest.length ≤ cs.length := by
  unfold fraction? at h
  split at h
  · rename_i cs
    have := splitDigits_length cs
    simp only at h
    split at h
    · cases h
    · cases h; simp only [List.length_cons]; omega
  · cases h; exact Nat.le_refl _

theorem exponentDigits?_le {b : Bool} {cs rest : List Char} {e : Option (Bool × List Char)}
    (h : exponentDigits? b cs = some (e,rest)) : rest.length ≤ cs.length := by
  have := splitDigits_length cs
  simp only [exponentDigits?] at h
  split at h
  · cases h
  · cases h; omega

theorem exponent?_le {cs rest : List Char} {e : Option (Bool × List Char)}
    (h : exponent? cs = some (e,rest)) : rest.length ≤ cs.length := by
  unfold exponent? at h
  split at h
  case h_7 => cases h; exact Nat.le_refl _
  all_goals
    have := exponentDigits?_le h
    simp only [List.length_cons]; omega

theorem unsigned?_shorter {b : Bool} {cs rest : List Char} {n : Numeral}
    (h : unsigned? b cs = some (n,rest)) : rest.length < cs.length := by
  have hs := splitDigits_length cs
  simp only [unsigned?] at h
  split at h
  · cases h
  · rename_i hw
    simp only [not_or] at hw
    simp only [Option.bind_eq_some_iff,Option.map_eq_some_iff] at h
    obtain ⟨⟨f,r⟩,hf,⟨e,r'⟩,he,heq⟩ := h
    cases heq
    have h1 := fraction?_le hf
    have h2 : r'.length ≤ r.length := exponent?_le he
    have h3 := List.length_pos_iff.mpr hw.1
    show r'.length < cs.length
    omega

theorem numeral?_shorter {cs rest : List Char} {n : Numeral}
    (h : numeral? cs = some (n,rest)) : rest.length < cs.length := by
  unfold numeral? at h
  split at h
  · exact Nat.lt_succ_of_lt (unsigned?_shorter h)
  · exact unsigned?_shorter h

def token? : List Char → Option (Token × List Char)
  | '[' :: cs => some (.arrayStart,cs)
  | ']' :: cs => some (.arrayEnd,cs)
  | '\x7b' :: cs => some (.objectStart,cs)
  | '\x7d' :: cs => some (.objectEnd,cs)
  | ',' :: cs => some (.comma,cs)
  | ':' :: cs => some (.colon,cs)
  | 'n' :: 'u' :: 'l' :: 'l' :: cs => some (.null,cs)
  | 't' :: 'r' :: 'u' :: 'e' :: cs => some (.bool true,cs)
  | 'f' :: 'a' :: 'l' :: 's' :: 'e' :: cs => some (.bool false,cs)
  | '"' :: cs => (pieces? cs).map fun (ps,rest) => (.string ((join? ps).map String.ofList),rest)
  | cs => (numeral? cs).map fun (n,rest) => (.number n,rest)

theorem token?_shorter {cs rest : List Char} {t : Token} (h : token? cs = some (t,rest)) :
    rest.length < cs.length := by
  unfold token? at h
  split at h
  case h_10 =>
    simp only [Option.map_eq_some_iff] at h
    obtain ⟨⟨ps,r⟩,hr,he⟩ := h
    cases he
    exact Nat.lt_succ_of_lt (pieces?_shorter hr)
  case h_11 =>
    simp only [Option.map_eq_some_iff] at h
    obtain ⟨⟨n,r⟩,hr,he⟩ := h
    cases he
    exact numeral?_shorter hr
  all_goals
    cases h
    simp only [List.length_cons]; omega

def tokens? : List Char → Option (List Token)
  | [] => some []
  | c :: cs =>
    if isSpace c then tokens? cs
    else
      match h : token? (c :: cs) with
      | none => none
      | some (t,rest) =>
        have := token?_shorter h
        (tokens? rest).map (t :: ·)
  termination_by cs => cs.length
  decreasing_by
    · exact Nat.lt_succ_self _
    · assumption

end Json
end ClusterFramework
