/-! Quotients of natural numbers rounded to the nearest whole number. -/
namespace ClusterFramework

/-- A half goes to the even neighbour. -/
def roundHalfEven (num den : Nat) : Nat :=
  let q := num/den
  let r := num%den
  if 2*r < den then q else if den < 2*r then q+1 else q+q%2

theorem roundHalfEven_near (num den : Nat) (hd : 0 < den) :
    2*num ≤ (2*roundHalfEven num den+1)*den ∧ 2*roundHalfEven num den*den ≤ 2*num+den := by
  have h := Nat.div_add_mod num den
  have hr := Nat.mod_lt num hd
  have e : den*(num/den) = (num/den)*den := Nat.mul_comm _ _
  unfold roundHalfEven
  simp only
  split
  · constructor <;> simp only [Nat.add_mul,Nat.mul_assoc,Nat.one_mul] <;> omega
  · split
    · constructor <;> simp only [Nat.add_mul,Nat.mul_add,Nat.mul_assoc,Nat.one_mul] <;> omega
    · have : num/den%2 = 0 ∨ num/den%2 = 1 := by omega
      rcases this with h2 | h2 <;> rw [h2] <;>
        constructor <;> simp only [Nat.add_mul,Nat.mul_add,Nat.mul_assoc,Nat.one_mul] <;> omega

end ClusterFramework
