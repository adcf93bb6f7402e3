import ClusterFramework.Text.Hexadecimal

/-! Tables of code points, written down as rows of hexadecimal numbers. A semicolon ends a
row; between the numbers stand blanks. -/
namespace ClusterFramework
namespace Text

/-- The rows read so far and the numbers of the row under way, each with the last in front. -/
structure Rows where
  ended : List (List Nat) := []
  row : List Nat := []
  number : Option Nat := none
  deriving DecidableEq,Repr

def Rows.pass (r : Rows) (c : Char) : Rows :=
  match hexValue? c with
  | some d => { r with number := some (16*r.number.getD 0+d) }
  | none =>
    let row := match r.number with
      | none => r.row
      | some n => n :: r.row
    if c = ';' then { ended := row.reverse :: r.ended } else { r with row := row, number := none }

def rowsOf (table : String) : List (List Nat) :=
  (table.toList.foldl Rows.pass {}).ended.reverse

/-- The rows of two numbers, as ranges with both ends. -/
def rangesOf (table : String) : List (Nat × Nat) :=
  (rowsOf table).filterMap fun row =>
    match row with
    | [first,last] => some (first,last)
    | _ => none

def triplesOf (table : String) : List (Nat × Nat × Nat) :=
  (rowsOf table).filterMap fun row =>
    match row with
    | [a,b,c] => some (a,b,c)
    | _ => none

def inRanges (ranges : List (Nat × Nat)) (c : Char) : Bool :=
  ranges.any fun r => r.1 ≤ c.toNat && c.toNat ≤ r.2

example : rangesOf "41 5a; 61 7a;" = [(0x41,0x5A),(0x61,0x7A)] := by decide

end Text
end ClusterFramework
