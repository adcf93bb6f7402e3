import ClusterFramework.Proofs.Json.RoundTrip
import Mathlib.Tactic.Choose

/-! The texts of JSON values, said without the functions that read them: how numbers and strings
are spelled and how values are put together, with white space around each. Every such text is
read, and the value it gives is the same wherever the text stands. -/
namespace ClusterFramework
namespace Json

def Spaces (cs : List Char) : Prop := ∀ c ∈ cs, c ∈ [' ','\n','\t','\r']

inductive FractionText : List Char → Prop
  | none : FractionText []
  | digits {ds : List Char} (h : Digits ds) : FractionText ('.' :: ds)

inductive ExponentText : List Char → Prop
  | none : ExponentText []
  | digits {e : Char} {sign ds : List Char} (mark : e = 'e' ∨ e = 'E')
      (signed : sign = [] ∨ sign = ['+'] ∨ sign = ['-']) (h : Digits ds) :
      ExponentText (e :: (sign ++ ds))

/-- No digits follow a zero at the beginning. -/
inductive NumberText : List Char → Prop
  | parts {sign whole fraction exponent : List Char} (signed : sign = [] ∨ sign = ['-'])
      (integer : whole = ['0'] ∨ Digits whole ∧ whole.head? ≠ some '0')
      (fractional : FractionText fraction) (scaled : ExponentText exponent) :
      NumberText (sign ++ (whole ++ (fraction ++ exponent)))

def IsHexDigit (c : Char) : Prop := '0' ≤ c ∧ c ≤ '9' ∨ 'a' ≤ c ∧ c ≤ 'f' ∨ 'A' ≤ c ∧ c ≤ 'F'

/-- What stands between quotes for a character, or for half of a surrogate pair. -/
inductive PieceText : List Char → Prop
  | plain {c : Char} (control : 32 ≤ c.toNat) (quote : c ≠ '"') (slash : c ≠ '\\') :
      PieceText [c]
  | short {c : Char} (h : c ∈ ['"','\\','/','b','f','n','r','t']) : PieceText ['\\',c]
  | long {a b c d : Char} (h : ∀ x ∈ [a,b,c,d], IsHexDigit x) : PieceText ['\\','u',a,b,c,d]

inductive StringText : List Char → Prop
  | quoted {parts : List (List Char)} (h : ∀ part ∈ parts, PieceText part) :
      StringText ('"' :: (parts.flatten ++ ['"']))

inductive KeyText : List Char → Prop
  | spaced {before cs after : List Char} (hbefore : Spaces before) (hafter : Spaces after)
      (h : StringText cs) : KeyText (before ++ (cs ++ after))

/-- The texts of values; members are given as their keys and their values. -/
inductive WellFormed : List Char → Prop
  | null : WellFormed ['n','u','l','l']
  | true : WellFormed ['t','r','u','e']
  | false : WellFormed ['f','a','l','s','e']
  | number {cs : List Char} (h : NumberText cs) : WellFormed cs
  | string {cs : List Char} (h : StringText cs) : WellFormed cs
  | noElements {cs : List Char} (h : Spaces cs) : WellFormed ('[' :: (cs ++ [']']))
  | array {xs : List (List Char)} (ne_nil : xs ≠ []) (elements : ∀ x ∈ xs, WellFormed x) :
      WellFormed ('[' :: (Text.joinWith ',' xs ++ [']']))
  | noMembers {cs : List Char} (h : Spaces cs) : WellFormed ('\x7b' :: (cs ++ ['\x7d']))
  | object {ms : List (List Char × List Char)} (ne_nil : ms ≠ []) (keys : ∀ m ∈ ms, KeyText m.1)
      (values : ∀ m ∈ ms, WellFormed m.2) :
      WellFormed ('\x7b' :: (Text.joinWith ',' (ms.map fun m => m.1 ++ ':' :: m.2) ++ ['\x7d']))
  | spaced {before cs after : List Char} (hbefore : Spaces before) (hafter : Spaces after)
      (h : WellFormed cs) : WellFormed (before ++ (cs ++ after))

theorem ExponentText.read {cs : List Char} (h : ExponentText cs) : ∃ e, ∀ rest,
    EndsNumeral rest → exponent? (cs ++ rest) = some (e,rest) := by
  cases h with
  | none => exact ⟨Option.none,fun rest hr => exponent?_append (e := Option.none) nofun hr⟩
  | @digits e sign ds mark signed h =>
    refine ⟨some (sign = ['-'],ds),fun rest hr => ?_⟩
    have hds := exponentDigits?_append h hr
    rcases signed with rfl | rfl | rfl
    · have hminus := h.append_ne (c := '-') (by decide) rest
      have hplus := h.append_ne (c := '+') (by decide) rest
      rcases mark with rfl | rfl
      all_goals
        rw [List.nil_append,List.cons_append,exponent?,hds]
        · rfl
        · exact hminus
        · exact hplus
    · rcases mark with rfl | rfl <;> exact hds _
    · rcases mark with rfl | rfl <;> exact hds _

/-- Neither digits nor a point stand where an exponent may. -/
theorem ExponentText.head? {cs rest : List Char} (h : ExponentText cs) (hr : EndsNumeral rest) :
    ∀ c ∈ (cs ++ rest).head?, ¬c.isDigit ∧ c ≠ '.' := by
  cases h with
  | none => exact fun c hc => ⟨(hr c hc).1,(hr c hc).2.1⟩
  | digits mark =>
    rintro c ⟨⟩
    rcases mark with rfl | rfl <;> decide

theorem FractionText.read {cs : List Char} (h : FractionText cs) : ∃ ds, ∀ rest,
    (∀ c ∈ rest.head?, ¬c.isDigit ∧ c ≠ '.') → fraction? (cs ++ rest) = some (ds,rest) ∧
      ∀ c ∈ (cs ++ rest).head?, ¬c.isDigit := by
  cases h with
  | none =>
    have hnone : ∀ c ∈ ([] : List Char), c.isDigit := List.forall_mem_nil _
    exact ⟨[],fun rest hr => ⟨fraction?_append hnone hr,fun c hc => (hr c hc).1⟩⟩
  | @digits ds h =>
    refine ⟨ds,fun rest hr => ⟨?_,?_⟩⟩
    · have hread := fraction?_append h.2 hr
      rwa [if_neg h.1] at hread
    · rintro c ⟨⟩
      decide

theorem NumberText.numeral? {cs : List Char} (h : NumberText cs) : ∃ n, ∀ rest,
    EndsNumeral rest → Json.numeral? (cs ++ rest) = some (n,rest) := by
  cases h with
  | @parts sign whole fraction exponent signed integer fractional scaled =>
    obtain ⟨ds,hds⟩ := fractional.read
    obtain ⟨e,he⟩ := scaled.read
    have hwhole : Digits whole := by
      rcases integer with rfl | ⟨h,-⟩
      · exact ⟨List.cons_ne_nil _ _,List.forall_mem_singleton.mpr rfl⟩
      · exact h
    have hzero : ¬(whole = [] ∨ whole.head? = some '0' ∧ 1 < whole.length) := by
      rintro (hnil | ⟨hhead,hlength⟩)
      · exact hwhole.1 hnil
      · rcases integer with rfl | ⟨-,hne⟩
        · exact absurd hlength (by decide)
        · exact hne hhead
    refine ⟨⟨sign = ['-'],whole,ds,e⟩,fun rest hr => ?_⟩
    obtain ⟨hfraction,hhead⟩ := hds _ (scaled.head? hr)
    have hunsigned := unsigned?_append hwhole.2 hhead hfraction (he rest hr)
    simp only [if_neg hzero] at hunsigned
    rw [List.append_assoc,List.append_assoc,List.append_assoc]
    rcases signed with rfl | rfl
    · exact (numeral?_append hwhole _).trans (hunsigned false)
    · exact hunsigned true

/-- A number begins with a digit or a minus sign. -/
theorem NumberText.exists_cons {cs : List Char} (h : NumberText cs) (rest : List Char) :
    ∃ c cs', (c.isDigit ∨ c = '-') ∧ cs ++ rest = c :: cs' := by
  cases h with
  | @parts sign whole fraction exponent signed integer fractional scaled =>
    rw [List.append_assoc,List.append_assoc]
    rcases signed with rfl | rfl
    · rcases integer with rfl | ⟨hwhole,-⟩
      · exact ⟨'0',_,.inl rfl,rfl⟩
      · obtain ⟨d,ds,hd,hds⟩ := hwhole.exists_cons (fraction ++ exponent ++ rest)
        exact ⟨d,ds,.inl hd,hds⟩
    · exact ⟨'-',_,.inr rfl,rfl⟩

theorem NumberText.token? {cs : List Char} (h : NumberText cs) : ∃ n, ∀ rest,
    EndsNumeral rest → Json.token? (cs ++ rest) = some (.number n,rest) := by
  obtain ⟨n,hn⟩ := h.numeral?
  refine ⟨n,fun rest hr => ?_⟩
  obtain ⟨c,cs',hc,hcs⟩ := h.exists_cons rest
  rw [hcs,token?_eq_numeral? hc,← hcs,hn rest hr,Option.map_some]

theorem hexValue?_isSome_iff (c : Char) : (Text.hexValue? c).isSome ↔ IsHexDigit c := by
  rw [Text.hexValue?,IsHexDigit]
  by_cases h : '0' ≤ c ∧ c ≤ '9'
  · simp [h]
  · by_cases h' : 'a' ≤ c ∧ c ≤ 'f'
    · simp [h,h']
    · by_cases h'' : 'A' ≤ c ∧ c ≤ 'F' <;> simp [h,h',h'']

theorem code?_isSome_iff {a b c d : Char} :
    (code? a b c d).isSome ↔ ∀ x ∈ [a,b,c,d], IsHexDigit x := by
  simp only [List.forall_mem_cons,← hexValue?_isSome_iff,code?]
  cases Text.hexValue? a <;> cases Text.hexValue? b <;> cases Text.hexValue? c <;>
    cases Text.hexValue? d <;> simp

theorem PieceText.pieces? {cs : List Char} (h : PieceText cs) : ∃ p, ∀ rest,
    Json.pieces? (cs ++ rest) = (Json.pieces? rest).map fun (ps,rest) => (p :: ps,rest) := by
  cases h with
  | @plain c control quote slash =>
    refine ⟨.char c,fun rest => ?_⟩
    rw [List.singleton_append,Json.pieces?,if_neg (not_or.mpr ⟨Nat.not_lt.mpr control,slash⟩)]
    · exact quote
    · exact fun _ _ _ _ _ h => absurd h slash
    · exact fun _ _ h => absurd h slash
  | @short c h =>
    simp only [List.mem_cons,List.not_mem_nil,or_false] at h
    rcases h with rfl | rfl | rfl | rfl | rfl | rfl | rfl | rfl <;> exact ⟨.char _,fun rest => rfl⟩
  | @long a b c d h =>
    obtain ⟨n,hn⟩ := Option.isSome_iff_exists.mp (code?_isSome_iff.mpr h)
    refine ⟨.code n,fun rest => ?_⟩
    simp only [List.cons_append,List.nil_append,Json.pieces?,hn,Option.bind_some]

theorem pieces?_flatten {parts : List (List Char)} (h : ∀ part ∈ parts, PieceText part) :
    ∃ ps, ∀ rest, pieces? (parts.flatten ++ '"' :: rest) = some (ps,rest) := by
  induction parts with
  | nil => exact ⟨[],fun rest => rfl⟩
  | cons part parts ih =>
    obtain ⟨p,hp⟩ := (h part List.mem_cons_self).pieces?
    obtain ⟨ps,hps⟩ := ih fun q hq => h q (List.mem_cons_of_mem part hq)
    refine ⟨p :: ps,fun rest => ?_⟩
    rw [List.flatten_cons,List.append_assoc,hp,hps,Option.map_some]

theorem StringText.token? {cs : List Char} (h : StringText cs) : ∃ s, ∀ rest,
    Json.token? (cs ++ rest) = some (.string s,rest) := by
  cases h with
  | quoted h =>
    obtain ⟨ps,hps⟩ := pieces?_flatten h
    refine ⟨(join? ps).map String.ofList,fun rest => ?_⟩
    rw [List.cons_append,List.append_assoc,Json.token?,List.singleton_append,hps,Option.map_some]

theorem tokens?_append_of_spaces {cs : List Char} (h : Spaces cs) (rest : List Char) :
    tokens? (cs ++ rest) = tokens? rest := by
  induction cs with
  | nil => rfl
  | cons c cs ih =>
    obtain ⟨hc,hcs⟩ := List.forall_mem_cons.mp h
    rw [List.cons_append,tokens?,if_pos ((isSpace_iff c).mpr hc),ih hcs]

section

variable {before cs after rest : List Char} {ts : List Token}

theorem Starts.after_spaces (hbefore : Spaces before) (h : Starts cs ts rest) :
    Starts (before ++ cs) ts rest := (tokens?_append_of_spaces hbefore cs).trans h

theorem Starts.before_spaces (hafter : Spaces after) (h : Starts cs ts (after ++ rest)) :
    Starts cs ts rest := by
  rw [Starts] at h ⊢
  rw [h,tokens?_append_of_spaces hafter]

/-- White space ends a numeral. -/
theorem EndsNumeral.spaced (hafter : Spaces after) (h : EndsNumeral rest) :
    EndsNumeral (after ++ rest) := by
  cases after with
  | nil => exact h
  | cons c after =>
    rintro d ⟨⟩
    have hc := hafter c List.mem_cons_self
    simp only [List.mem_cons,List.not_mem_nil,or_false] at hc
    rcases hc with rfl | rfl | rfl | rfl <;> decide

end

theorem KeyText.spells {cs : List Char} (h : KeyText cs) : ∃ k, SpellsKey cs k := by
  cases h with
  | spaced hbefore hafter h =>
    obtain ⟨s,hs⟩ := h.token?
    refine ⟨s,fun rest => ?_⟩
    rw [List.append_assoc,List.append_assoc]
    exact .before_spaces hafter (.after_spaces hbefore (starts_of_token? (hs _)))

/-- A text that follows the grammar is that of a value, wherever it stands. -/
theorem WellFormed.spells {cs : List Char} (h : WellFormed cs) : ∃ v, Spells cs v := by
  have : Nonempty Json := ⟨.null⟩
  induction h with
  | null => exact ⟨.null,fun rest _ => starts_of_token? rfl⟩
  | true => exact ⟨.bool Bool.true,fun rest _ => starts_of_token? rfl⟩
  | false => exact ⟨.bool Bool.false,fun rest _ => starts_of_token? rfl⟩
  | number h =>
    obtain ⟨n,hn⟩ := h.token?
    exact ⟨.number n,fun rest hr => starts_of_token? (hn rest hr)⟩
  | string h =>
    obtain ⟨s,hs⟩ := h.token?
    exact ⟨.string s,fun rest _ => starts_of_token? (hs rest)⟩
  | noElements h =>
    refine ⟨.array [],fun rest _ => ?_⟩
    rw [List.cons_append,List.append_assoc]
    exact .cons rfl (.after_spaces h (starts_of_token? rfl))
  | @array xs _ _ ih =>
    choose! value hvalue using ih
    have harray : Spells ('[' :: (Text.joinWith ',' (xs.map id) ++ [']']))
      (.array (xs.map value)) := spells_array hvalue
    rw [List.map_id] at harray
    exact ⟨_,harray⟩
  | noMembers h =>
    refine ⟨.object [],fun rest _ => ?_⟩
    rw [List.cons_append,List.append_assoc]
    exact .cons rfl (.after_spaces h (starts_of_token? rfl))
  | @object ms _ keys _ ih =>
    have hkeys : ∀ m ∈ ms, ∃ k, SpellsKey m.1 k := fun m hm => (keys m hm).spells
    choose! key hkey using hkeys
    choose! value hvalue using ih
    exact ⟨_,spells_object hkey hvalue⟩
  | spaced hbefore hafter h ih =>
    obtain ⟨v,hv⟩ := ih
    refine ⟨v,fun rest hr => ?_⟩
    rw [List.append_assoc,List.append_assoc]
    exact .before_spaces hafter (.after_spaces hbefore (hv _ (hr.spaced hafter)))

end Json
end ClusterFramework
