import ClusterFramework.Json.Token

/-! JSON values and the text they are read from. Objects keep their members in the order
written, repeated keys included. -/
namespace ClusterFramework

/-- A string or key is absent where its escapes name half of a surrogate pair. -/
inductive Json where
  | null
  | bool (b : Bool)
  | number (n : Numeral)
  | string (s : Option String)
  | array (xs : List Json)
  | object (members : List (Option String × Json))
  deriving Repr

namespace Json

/-- A container under way: the values so far, last first, and for an object the key whose
value is being read. -/
inductive Frame where
  | array (done : List Json)
  | object (done : List (Option String × Json)) (key : Option String)

inductive Position where
  | before
  | after (v : Json)

/-- Reads on from a position inside the given containers, the innermost one first. -/
def run : Position → List Frame → List Token → Option Json
  | .after v, [], [] => some v
  | .before, fs, .null :: ts => run (.after null) fs ts
  | .before, fs, .bool b :: ts => run (.after (bool b)) fs ts
  | .before, fs, .number n :: ts => run (.after (number n)) fs ts
  | .before, fs, .string s :: ts => run (.after (string s)) fs ts
  | .before, fs, .arrayStart :: .arrayEnd :: ts => run (.after (array [])) fs ts
  | .before, fs, .arrayStart :: ts => run .before (.array [] :: fs) ts
  | .before, fs, .objectStart :: .objectEnd :: ts => run (.after (object [])) fs ts
  | .before, fs, .objectStart :: .string k :: .colon :: ts => run .before (.object [] k :: fs) ts
  | .after v, .array vs :: fs, .comma :: ts => run .before (.array (v :: vs) :: fs) ts
  | .after v, .array vs :: fs, .arrayEnd :: ts => run (.after (array (v :: vs).reverse)) fs ts
  | .after v, .object ms k :: fs, .comma :: .string k' :: .colon :: ts =>
    run .before (.object ((k,v) :: ms) k' :: fs) ts
  | .after v, .object ms k :: fs, .objectEnd :: ts =>
    run (.after (object ((k,v) :: ms).reverse)) fs ts
  | _, _, _ => none

def ofTokens? (ts : List Token) : Option Json := run .before [] ts

def parse? (text : String) : Option Json := (tokens? text.toList).bind ofTokens?

def escapeChar (c : Char) : List Char :=
  match c with
  | '"' => ['\\','"']
  | '\\' => ['\\','\\']
  | '\x08' => ['\\','b']
  | '\x0c' => ['\\','f']
  | '\n' => ['\\','n']
  | '\r' => ['\\','r']
  | '\t' => ['\\','t']
  | c =>
    if c.toNat < 16 then ['\\','u','0','0','0'] ++ Nat.toDigits 16 c.toNat
    else if c.toNat < 32 then ['\\','u','0','0'] ++ Nat.toDigits 16 c.toNat
    else [c]

def printString (s : String) : List Char := '"' :: (s.toList.flatMap escapeChar ++ ['"'])

def printText (s : Option String) : List Char := (s.map printString).getD []

mutual

def printChars : Json → List Char
  | null => ['n','u','l','l']
  | bool true => ['t','r','u','e']
  | bool false => ['f','a','l','s','e']
  | number n => n.text true
  | string s => printText s
  | array xs => '[' :: printElements xs
  | object ms => '\x7b' :: printMembers ms

def printElements : List Json → List Char
  | [] => [']']
  | [x] => printChars x ++ [']']
  | x :: y :: xs => printChars x ++ ',' :: printElements (y :: xs)

def printMembers : List (Option String × Json) → List Char
  | [] => ['\x7d']
  | [(k,x)] => printText k ++ ':' :: (printChars x ++ ['\x7d'])
  | (k,x) :: m :: ms => printText k ++ ':' :: (printChars x ++ ',' :: printMembers (m :: ms))

end

def print (v : Json) : String := String.ofList (printChars v)

end Json
end ClusterFramework
