import ClusterFramework.Text.Hexadecimal
import ClusterFramework.Text.Utf8

/-! Characters written as the hexadecimal digits of their octets after percent signs. -/
namespace ClusterFramework
namespace Url

/-- Everywhere, what is not a visible ASCII character or a space is escaped. -/
def isControl (c : Char) : Bool := c.toNat < 32 || 126 < c.toNat

def inFragment (c : Char) : Bool := isControl c || " \"<>\x60".toList.contains c

def inQuery (c : Char) : Bool := isControl c || " \"#<>".toList.contains c

def inSpecialQuery (c : Char) : Bool := inQuery c || c = '\x27'

def inPath (c : Char) : Bool := inFragment c || "#?\x7b\x7d".toList.contains c

def inCredentials (c : Char) : Bool := inPath c || "/:;=@[\\]^|".toList.contains c

def upperDigit (n : Nat) : Char := (Nat.digitChar n).toUpper

def escapeOctet (b : UInt8) : List Char :=
  ['%',upperDigit (b.toNat/16),upperDigit (b.toNat%16)]

def escape (mustEscape : Char → Bool) (cs : List Char) : List Char :=
  cs.flatMap fun c =>
    if mustEscape c then (Utf8.encode (String.singleton c)).flatMap escapeOctet else [c]

/-- The octets of a text with its escapes undone. A percent sign that begins no escape stands
for itself. -/
def unescape : Octets → Octets
  | 37 :: high :: low :: after =>
    match Text.hexValue? (Char.ofNat high.toNat), Text.hexValue? (Char.ofNat low.toNat) with
    | some m, some n => UInt8.ofNat (16*m+n) :: unescape after
    | _, _ => 37 :: unescape (high :: low :: after)
  | b :: rest => b :: unescape rest
  | [] => []

end Url
end ClusterFramework
