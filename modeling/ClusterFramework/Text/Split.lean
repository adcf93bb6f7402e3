/-! Texts cut at a separator, and put together again. -/
namespace ClusterFramework
namespace Text

/-- The parts between the separators, one more than there are separators. -/
def splitAt (separator : Char) : List Char → List (List Char)
  | [] => [[]]
  | c :: cs =>
    if c = separator then [] :: splitAt separator cs
    else
      match splitAt separator cs with
      | [] => [[c]]
      | part :: parts => (c :: part) :: parts

def splitOnce? (separator : Char) : List Char → Option (List Char × List Char)
  | [] => none
  | c :: cs =>
    if c = separator then some ([],cs)
    else (splitOnce? separator cs).map fun (before,after) => (c :: before,after)

def joinWith (separator : Char) : List (List Char) → List Char
  | [] => []
  | [part] => part
  | part :: next :: parts => part ++ separator :: joinWith separator (next :: parts)

theorem splitAt_ne_nil (separator : Char) (cs : List Char) : splitAt separator cs ≠ [] := by
  cases cs with
  | nil => simp [splitAt]
  | cons c cs =>
    simp only [splitAt]
    split
    · simp
    · split <;> simp

theorem joinWith_splitAt (separator : Char) (cs : List Char) :
    joinWith separator (splitAt separator cs) = cs := by
  induction cs with
  | nil => rfl
  | cons c cs ih =>
    have hne := splitAt_ne_nil separator cs
    simp only [splitAt]
    split
    · rename_i hc
      cases h : splitAt separator cs with
      | nil => exact absurd h hne
      | cons part parts => rw [h] at ih; simp [joinWith,ih,hc]
    · cases h : splitAt separator cs with
      | nil => exact absurd h hne
      | cons part parts =>
        rw [h] at ih
        cases parts <;> simp_all [joinWith]

end Text
end ClusterFramework
