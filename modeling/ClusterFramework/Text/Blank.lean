/-! White space: the characters with the property of that name, and texts stripped of them. -/
namespace ClusterFramework
namespace Text

def blanks : List Nat :=
  [0x9,0xA,0xB,0xC,0xD,0x20,0x85,0xA0,0x1680,0x2000,0x2001,0x2002,0x2003,0x2004,0x2005,0x2006,
    0x2007,0x2008,0x2009,0x200A,0x2028,0x2029,0x202F,0x205F,0x3000]

def isBlank (c : Char) : Bool := blanks.contains c.toNat

def trimStart (cs : List Char) : List Char := cs.dropWhile isBlank

def trimEnd (cs : List Char) : List Char := (cs.reverse.dropWhile isBlank).reverse

def trim (cs : List Char) : List Char := trimEnd (trimStart cs)

/-- Nothing is left of the text once it is trimmed. -/
def allBlank (s : String) : Bool := s.toList.all isBlank

theorem trim_eq_nil_of_all {cs : List Char} (h : cs.all isBlank) : trim cs = [] := by
  have hs : trimStart cs = [] := by
    induction cs with
    | nil => rfl
    | cons c cs ih =>
      simp only [List.all_cons,Bool.and_eq_true] at h
      simpa [trimStart,List.dropWhile_cons,h.1] using ih h.2
  simp [trim,hs,trimEnd]

end Text
end ClusterFramework
