import ClusterFramework.Text.Unprintable

/-! Text between double quotes, fit for a diagnostic: whatever would not show, or would end
the quotation, is escaped. -/
namespace ClusterFramework
namespace Text

def escape (c : Char) : List Char :=
  match c with
  | '\x00' => ['\\','0']
  | '\t' => ['\\','t']
  | '\r' => ['\\','r']
  | '\n' => ['\\','n']
  | '\\' => ['\\','\\']
  | '"' => ['\\','"']
  | c =>
    if isUnprintable c then '\\' :: 'u' :: '\x7b' :: (Nat.toDigits 16 c.toNat ++ ['\x7d']) else [c]

def quoted (s : String) : String :=
  String.ofList ('"' :: (s.toList.flatMap escape ++ ['"']))

def quotedOption : Option String → String
  | none => "None"
  | some s => "Some(" ++ quoted s ++ ")"

end Text
end ClusterFramework
