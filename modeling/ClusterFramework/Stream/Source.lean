import ClusterFramework.Text.Utf8

/-! A byte stream as a reader meets it: pieces in order, then perhaps one failure, then the
end. What a read returns depends on the octets of the pieces only, never on where one piece
stops and the next one starts. -/
namespace ClusterFramework
namespace Stream

structure Source where
  pieces : List Octets
  failure : Option String := none
  deriving DecidableEq,Repr

namespace Source

def octets (s : Source) : Octets := s.pieces.flatten

def chunks (size : Nat) (b : Octets) : List Octets :=
  if b = [] ∨ size = 0 then [b]
  else b.take size :: chunks size (b.drop size)
  termination_by b.length
  decreasing_by
    rename_i h
    have := List.length_pos_iff.mpr (not_or.mp h).1
    simp only [List.length_drop]
    omega

def ofChunks (size : Nat) (failure : Option String) (b : Octets) : Source :=
  ⟨chunks size b,failure⟩

end Source

/-- Takes octets up to and including the first `stop`, but not more than `limit`. -/
def takeThrough (stop : UInt8) : Nat → Octets → Octets × Octets
  | 0, b => ([],b)
  | _+1, [] => ([],[])
  | limit+1, x :: b =>
    if x = stop then ([x],b) else
      let (line,rest) := takeThrough stop limit b
      (x :: line,rest)

def lineOf (stop : UInt8) : Nat → List Octets → Octets × List Octets
  | _, [] => ([],[])
  | limit, p :: ps =>
    let (line,rest) := takeThrough stop limit p
    if line.length = limit ∨ line.getLast? = some stop then (line,rest :: ps)
    else
      let (more,ps) := lineOf stop (limit-line.length) ps
      (line ++ more,ps)

/-- The first `n` octets, or all if there are fewer. -/
def blockOf : Nat → List Octets → Octets × List Octets
  | _, [] => ([],[])
  | n, p :: ps =>
    if n ≤ p.length then (p.take n,p.drop n :: ps)
    else
      let (more,ps) := blockOf (n-p.length) ps
      (p ++ more,ps)

theorem blockOf_eq (n : Nat) (ps : List Octets) :
    (blockOf n ps).1 = ps.flatten.take n ∧ (blockOf n ps).2.flatten = ps.flatten.drop n := by
  induction ps generalizing n with
  | nil => simp [blockOf]
  | cons p ps ih =>
    simp only [blockOf]
    split
    · rename_i h
      simp [List.take_append,List.drop_append,Nat.sub_eq_zero_of_le h]
    · rename_i h
      have h' : p.length ≤ n := by omega
      simp [List.take_append,List.drop_append,(ih _).1,(ih _).2,List.take_of_length_le h',
        List.drop_of_length_le h']

theorem takeThrough_split (stop : UInt8) (limit : Nat) (p q : Octets) :
    takeThrough stop limit (p ++ q) =
      let (line,rest) := takeThrough stop limit p
      if line.length = limit ∨ line.getLast? = some stop then (line,rest ++ q)
      else
        let (more,rest) := takeThrough stop (limit-line.length) q
        (line ++ more,rest) := by
  induction limit generalizing p with
  | zero => simp [takeThrough]
  | succ limit ih =>
    cases p with
    | nil => simp [takeThrough]
    | cons x p =>
      by_cases hx : x = stop
      · simp [takeThrough,hx]
      · simp only [List.cons_append,takeThrough,hx,if_false,ih p]
        generalize takeThrough stop limit p = r
        obtain ⟨line,rest⟩ := r
        cases line with
        | nil =>
          have hx' : ¬some x = some stop := by simpa using hx
          cases limit <;> simp [hx']
        | cons y line =>
          simp only [List.length_cons,List.getLast?_cons_cons,Nat.add_right_cancel_iff,
            Nat.add_sub_add_right]
          split <;> simp

theorem lineOf_eq (stop : UInt8) (limit : Nat) (ps : List Octets) :
    (lineOf stop limit ps).1 = (takeThrough stop limit ps.flatten).1 ∧
      (lineOf stop limit ps).2.flatten = (takeThrough stop limit ps.flatten).2 := by
  induction ps generalizing limit with
  | nil => cases limit <;> simp [lineOf,takeThrough]
  | cons p ps ih =>
    simp only [lineOf,List.flatten_cons,takeThrough_split]
    split <;> simp [(ih _).1,(ih _).2]

end Stream
end ClusterFramework
