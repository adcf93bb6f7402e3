import ClusterFramework.Proofs.Json.Tokens
import ClusterFramework.Text.Split

/-! A value is read back from its text: the text is that of the value's tokens, and the tokens
are put together again under whatever containers are open. -/
namespace ClusterFramework
namespace Json

/-- Such values are printed whole: their numerals are spelled out without a leading zero, and
no string or key lacks its text. -/
inductive Printable : Json → Prop where
  | null : Printable null
  | bool (b : Bool) : Printable (bool b)
  | number {n : Numeral} (spelled : n.Spelled) (noZero : ¬n.LeadingZero) : Printable (number n)
  | string (s : String) : Printable (string (some s))
  | array {xs : List Json} (elements : ∀ x ∈ xs, Printable x) : Printable (array xs)
  | object {ms : List (Option String × Json)} (keys : ∀ m ∈ ms, m.1.isSome)
      (values : ∀ m ∈ ms, Printable m.2) : Printable (object ms)

mutual

def tokens : Json → List Token
  | null => [.null]
  | bool b => [.bool b]
  | number n => [.number n]
  | string s => [.string s]
  | array xs => .arrayStart :: elementTokens xs
  | object ms => .objectStart :: memberTokens ms

def elementTokens : List Json → List Token
  | [] => [.arrayEnd]
  | [x] => tokens x ++ [.arrayEnd]
  | x :: y :: xs => tokens x ++ .comma :: elementTokens (y :: xs)

def memberTokens : List (Option String × Json) → List Token
  | [] => [.objectEnd]
  | [(k,x)] => .string k :: .colon :: (tokens x ++ [.objectEnd])
  | (k,x) :: m :: ms => .string k :: .colon :: (tokens x ++ .comma :: memberTokens (m :: ms))

end

/-- A text starts with the given tokens and goes on with the rest. -/
def Starts (cs : List Char) (ts : List Token) (rest : List Char) : Prop :=
  tokens? cs = (tokens? rest).map (ts ++ ·)

theorem isSpace_iff (c : Char) : isSpace c ↔ c ∈ [' ','\n','\t','\r'] := by
  simp [isSpace,or_assoc]

theorem token?_of_isSpace {c : Char} (h : isSpace c) (cs : List Char) :
    token? (c :: cs) = none := by
  simp only [isSpace_iff,List.mem_cons,List.not_mem_nil,or_false] at h
  rcases h with rfl | rfl | rfl | rfl <;> rfl

theorem starts_of_token? {cs rest : List Char} {t : Token} (h : token? cs = some (t,rest)) :
    Starts cs [t] rest := by
  cases cs with
  | nil => cases h
  | cons c cs =>
    have hc : ¬isSpace c := fun hs => by
      rw [token?_of_isSpace hs] at h
      cases h
    rw [Starts,tokens?,if_neg hc]
    split
    · rename_i hn
      rw [h] at hn
      cases hn
    · rename_i t' rest' hr
      rw [h] at hr
      cases hr
      rfl

namespace Starts

theorem append {cs middle rest : List Char} {ts us : List Token} (h : Starts cs ts middle)
    (h' : Starts middle us rest) : Starts cs (ts ++ us) rest := by
  rw [Starts] at h h' ⊢
  rw [h,h',Option.map_map]
  simp only [Function.comp_def,List.append_assoc]

theorem cons {cs middle rest : List Char} {t : Token} {ts : List Token}
    (h : token? cs = some (t,middle)) (h' : Starts middle ts rest) : Starts cs (t :: ts) rest :=
  (starts_of_token? h).append h'

end Starts

/-- A text is that of a value's tokens, where nothing prolongs it. -/
def Spells (cs : List Char) (v : Json) : Prop :=
  ∀ rest, EndsNumeral rest → Starts (cs ++ rest) v.tokens rest

/-- A text is that of a key, whatever follows. -/
def SpellsKey (cs : List Char) (k : Option String) : Prop :=
  ∀ rest, Starts (cs ++ rest) [.string k] rest

section

variable {α : Type} {text keyText : α → List Char} {value : α → Json} {key : α → Option String}

theorem starts_elements {as : List α} (hne : as ≠ []) (h : ∀ a ∈ as, Spells (text a) (value a))
    (rest : List Char) : Starts (Text.joinWith ',' (as.map text) ++ ']' :: rest)
      (elementTokens (as.map value)) rest := by
  induction as with
  | nil => exact absurd rfl hne
  | cons a as ih =>
    have ha := h a List.mem_cons_self
    cases as with
    | nil => exact (ha _ (by simp [EndsNumeral])).append (starts_of_token? rfl)
    | cons b as =>
      have has := ih (List.cons_ne_nil b as) fun c hc => h c (List.mem_cons_of_mem a hc)
      rw [List.map_cons,List.map_cons,Text.joinWith,List.append_assoc]
      exact (ha _ (by simp [EndsNumeral])).append (.cons rfl has)

theorem starts_members {as : List α} (hne : as ≠ [])
    (hkey : ∀ a ∈ as, SpellsKey (keyText a) (key a)) (h : ∀ a ∈ as, Spells (text a) (value a))
    (rest : List Char) :
    Starts (Text.joinWith ',' (as.map fun a => keyText a ++ ':' :: text a) ++ '\x7d' :: rest)
      (memberTokens (as.map fun a => (key a,value a))) rest := by
  induction as with
  | nil => exact absurd rfl hne
  | cons a as ih =>
    have hk := hkey a List.mem_cons_self
    have ha := h a List.mem_cons_self
    cases as with
    | nil =>
      rw [List.map_singleton,Text.joinWith,List.append_assoc,List.cons_append]
      refine (hk _).append (.cons rfl ?_)
      exact (ha _ (by simp [EndsNumeral])).append (starts_of_token? rfl)
    | cons b as =>
      have has := ih (List.cons_ne_nil b as) (fun c hc => hkey c (List.mem_cons_of_mem a hc))
        fun c hc => h c (List.mem_cons_of_mem a hc)
      rw [List.map_cons,List.map_cons,Text.joinWith,List.append_assoc,List.append_assoc,
        List.cons_append]
      refine (hk _).append (.cons rfl ?_)
      exact (ha _ (by simp [EndsNumeral])).append (.cons rfl has)

theorem spells_array {as : List α} (h : ∀ a ∈ as, Spells (text a) (value a)) :
    Spells ('[' :: (Text.joinWith ',' (as.map text) ++ [']'])) (array (as.map value)) := by
  intro rest _
  rw [List.cons_append,List.append_assoc]
  cases as with
  | nil => exact .cons rfl (starts_of_token? rfl)
  | cons a as => exact .cons rfl (starts_elements (List.cons_ne_nil a as) h rest)

theorem spells_object {as : List α} (hkey : ∀ a ∈ as, SpellsKey (keyText a) (key a))
    (h : ∀ a ∈ as, Spells (text a) (value a)) :
    Spells ('\x7b' :: (Text.joinWith ',' (as.map fun a => keyText a ++ ':' :: text a) ++ ['\x7d']))
      (object (as.map fun a => (key a,value a))) := by
  intro rest _
  rw [List.cons_append,List.append_assoc]
  cases as with
  | nil => exact .cons rfl (starts_of_token? rfl)
  | cons a as => exact .cons rfl (starts_members (List.cons_ne_nil a as) hkey h rest)

end

theorem printElements_eq (xs : List Json) :
    printElements xs = Text.joinWith ',' (xs.map printChars) ++ [']'] := by
  induction xs with
  | nil => rfl
  | cons x xs ih =>
    cases xs with
    | nil => rfl
    | cons y xs => simp [printElements,ih,Text.joinWith]

theorem printMembers_eq (ms : List (Option String × Json)) : printMembers ms =
    Text.joinWith ',' (ms.map fun m => printText m.1 ++ ':' :: printChars m.2) ++ ['\x7d'] := by
  induction ms with
  | nil => rfl
  | cons m ms ih =>
    cases ms with
    | nil => simp [printMembers,Text.joinWith]
    | cons n ms => simp [printMembers,ih,Text.joinWith]

theorem spellsKey_printText {k : Option String} (hk : k.isSome) : SpellsKey (printText k) k := by
  obtain ⟨s,rfl⟩ := Option.isSome_iff_exists.mp hk
  exact fun rest => starts_of_token? (token?_printString s rest)

theorem Printable.spells {v : Json} (h : v.Printable) : Spells (printChars v) v := by
  induction h with
  | null => exact fun rest _ => starts_of_token? rfl
  | bool b => cases b <;> exact fun rest _ => starts_of_token? rfl
  | number spelled noZero =>
    exact fun rest hr => starts_of_token? ((token?_text spelled hr).trans (if_neg noZero))
  | string s => exact fun rest _ => starts_of_token? (token?_printString s rest)
  | @array xs _ ih =>
    have harray := spells_array ih
    rwa [List.map_id',← printElements_eq] at harray
  | @object ms keys _ ih =>
    have hobject := spells_object (fun m hm => spellsKey_printText (keys m hm)) ih
    rwa [List.map_id',← printMembers_eq] at hobject

/-- An array that closes at once has no elements. -/
theorem elementTokens_cons_append_ne (x : Json) (xs : List Json) (ts us : List Token) :
    elementTokens (x :: xs) ++ ts ≠ .arrayEnd :: us := by
  cases xs <;> cases x <;> simp [elementTokens,tokens]

/-- Reading its tokens gives the value, whatever stands around it. -/
def Restored (v : Json) : Prop :=
  ∀ fs ts, run .before fs (v.tokens ++ ts) = run (.after v) fs ts

theorem run_elementTokens {x : Json} {xs : List Json} (h : ∀ y ∈ x :: xs, Restored y)
    (done : List Json) (fs : List Frame) (ts : List Token) :
    run .before (.array done :: fs) (elementTokens (x :: xs) ++ ts) =
      run (.after (array (done.reverse ++ x :: xs))) fs ts := by
  induction xs generalizing x done with
  | nil =>
    rw [elementTokens,List.append_assoc,h x List.mem_cons_self]
    simp [run]
  | cons y xs ih =>
    rw [elementTokens,List.append_assoc,h x List.mem_cons_self,List.cons_append,run,
      ih fun z hz => h z (List.mem_cons_of_mem _ hz)]
    simp

theorem run_memberTokens {k : Option String} {x : Json} {ms : List (Option String × Json)}
    (h : ∀ m ∈ (k,x) :: ms, Restored m.2) (done : List (Option String × Json)) (fs : List Frame)
    (ts : List Token) : ∃ us, memberTokens ((k,x) :: ms) = .string k :: .colon :: us ∧
    run .before (.object done k :: fs) (us ++ ts) =
      run (.after (object (done.reverse ++ (k,x) :: ms))) fs ts := by
  induction ms generalizing k x done with
  | nil =>
    refine ⟨_,by rw [memberTokens],?_⟩
    rw [List.append_assoc,h (k,x) List.mem_cons_self]
    simp [run]
  | cons m ms ih =>
    obtain ⟨k',y⟩ := m
    obtain ⟨us,hus,hrun⟩ := ih (fun n hn => h n (List.mem_cons_of_mem _ hn)) ((k,x) :: done)
    refine ⟨_,by rw [memberTokens],?_⟩
    rw [List.append_assoc,h (k,x) List.mem_cons_self,List.cons_append,hus,List.cons_append,
      List.cons_append,run,hrun]
    simp

theorem sizeOf_lt_of_mem {m : Option String × Json} {ms : List (Option String × Json)}
    (h : m ∈ ms) : sizeOf m.2 < sizeOf ms := by
  have hm := List.sizeOf_lt_of_mem h
  have hv : sizeOf m = 1+sizeOf m.1+sizeOf m.2 := rfl
  omega

theorem restored (v : Json) : v.Restored :=
  match v with
  | null | bool _ | number _ | string _ => fun _ _ => rfl
  | array [] | object [] => fun _ _ => rfl
  | array (x :: xs) => fun fs ts => by
    rw [tokens,List.cons_append,run]
    · exact run_elementTokens (fun y _ => restored y) [] fs ts
    · exact elementTokens_cons_append_ne x xs ts
  | object (m :: ms) => fun fs ts => by
    have hvalues : ∀ n ∈ m :: ms, Restored n.2 := fun n hn =>
      have := sizeOf_lt_of_mem hn
      restored n.2
    obtain ⟨us,hus,hrun⟩ := run_memberTokens hvalues [] fs ts
    rw [tokens,hus]
    exact hrun
termination_by sizeOf v
decreasing_by
  · decreasing_tactic
  · rw [object.sizeOf_spec]
    omega

theorem Spells.parse? {cs : List Char} {v : Json} (h : Spells cs v) :
    Json.parse? (String.ofList cs) = some v := by
  have htokens := h [] (by simp [EndsNumeral])
  have hrun := v.restored [] []
  rw [List.append_nil] at htokens hrun
  rw [Json.parse?,String.toList_ofList,htokens]
  simp [tokens?,ofTokens?,hrun,run]

theorem parse?_print {v : Json} (h : v.Printable) : parse? v.print = some v := h.spells.parse?

/-- A numeral with a leading zero is no text of a value. -/
theorem parse?_print_of_leadingZero {n : Numeral} (h : n.Spelled) (hz : n.LeadingZero) :
    parse? (number n).print = none := by
  obtain ⟨c,cs,hc,hcs⟩ := exists_text_append h []
  have hend : EndsNumeral [] := by simp [EndsNumeral]
  have htoken := token?_text h hend
  rw [if_pos hz,hcs] at htoken
  rw [List.append_nil] at hcs
  have hspace : ¬isSpace c := fun hs => by
    simp only [isSpace_iff,List.mem_cons,List.not_mem_nil,or_false] at hs
    rcases hs with rfl | rfl | rfl | rfl <;> revert hc <;> decide
  rw [parse?,print,String.toList_ofList,printChars,hcs,tokens?,if_neg hspace]
  split
  · rfl
  · rename_i ht
    rw [htoken] at ht
    cases ht

end Json
end ClusterFramework
