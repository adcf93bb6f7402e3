/-! Natural numbers in decimal. -/
namespace ClusterFramework
namespace Text

def decimal (n : Nat) : String := String.ofList (Nat.toDigits 10 n)

def natural? (cs : List Char) : Option Nat :=
  if cs ≠ [] ∧ cs.all Char.isDigit then some (Nat.ofDigitChars 10 cs 0) else none

/-- One or more digits after an optional plus sign, for a value below `bound`. -/
def naturalBelow? (bound : Nat) (cs : List Char) : Option Nat :=
  (natural? (match cs with | '+' :: cs => cs | cs => cs)).filter (· < bound)

theorem isDigit_toDigits (n : Nat) : ∀ c ∈ Nat.toDigits 10 n, c.isDigit := fun _ hc =>
  Nat.isDigit_of_mem_toDigits (by decide) (by decide) hc

theorem natural?_toDigits (n : Nat) : natural? (Nat.toDigits 10 n) = some n := by
  have h : (Nat.toDigits 10 n).all Char.isDigit = true := List.all_eq_true.mpr (isDigit_toDigits n)
  rw [natural?,if_pos ⟨Nat.toDigits_ne_nil,h⟩,Nat.ofDigitChars_ten_toDigits]

end Text
end ClusterFramework
