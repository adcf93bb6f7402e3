import ClusterFramework.Text.Quoted
import ClusterFramework.Text.Utf8

/-! Files of certificates and keys: sections of base 64 between a line that begins the
section and one that ends it. -/
namespace ClusterFramework
namespace Pem

inductive Kind where
  | certificate
  | certificateRequest
  | revocationList
  | publicKey
  | privateKey
  | rsaPrivateKey
  | ecPrivateKey
  | helloEncryption
  deriving DecidableEq,Repr

def Kind.labels : List (String × Kind) :=
  [("CERTIFICATE",.certificate),("CERTIFICATE REQUEST",.certificateRequest),
    ("X509 CRL",.revocationList),("PUBLIC KEY",.publicKey),("PRIVATE KEY",.privateKey),
    ("RSA PRIVATE KEY",.rsaPrivateKey),("EC PRIVATE KEY",.ecPrivateKey),
    ("ECHCONFIG",.helloEncryption)]

def Kind.ofLabel? (label : Octets) : Option Kind :=
  (Utf8.decode? label).bind fun s => labels.lookup s

def Kind.isPrivateKey : Kind → Bool
  | privateKey | rsaPrivateKey | ecPrivateKey => true
  | _ => false

inductive PemError where
  | unended (label : Octets)
  | badStart (line : Octets)
  | badCharacter (b : UInt8)
  | prematurePadding
  | badPadding
  deriving DecidableEq,Repr

def PemError.message : PemError → String
  | unended label => "section end " ++ Text.quoted (Utf8.lossy label) ++ " missing"
  | badStart line => "illegal section start: " ++ Text.quoted (Utf8.lossy line)
  | badCharacter b => "InvalidCharacter(" ++ String.ofList (Nat.toDigits 10 b.toNat) ++ ")"
  | prematurePadding => "PrematurePadding"
  | badPadding => "InvalidTrailingPadding"

inductive Symbol where
  | digit (n : Nat)
  | padding
  deriving DecidableEq,Repr

def isSpace (b : UInt8) : Bool := 9 ≤ b && b ≤ 13 || b = 32

def digit? (b : UInt8) : Option Nat :=
  let n := b.toNat
  if 65 ≤ n ∧ n ≤ 90 then some (n-65)
  else if 97 ≤ n ∧ n ≤ 122 then some (n-71)
  else if 48 ≤ n ∧ n ≤ 57 then some (n+4)
  else if n = 43 then some 62
  else if n = 47 then some 63
  else none

def symbol (b : UInt8) : Except PemError Symbol :=
  if b = 61 then .ok .padding
  else
    match digit? b with
    | some n => .ok (.digit n)
    | none => .error (.badCharacter b)

/-- The symbols of a text in blocks of eight, behind what is there of the first. No block
follows one with padding. -/
def blocksFrom (block : List Symbol) : Octets → Except PemError (List (List Symbol))
  | [] => .ok [block]
  | b :: rest =>
    if isSpace b then blocksFrom block rest
    else
      match symbol b with
      | .error e => .error e
      | .ok s =>
        if block.length < 8 then blocksFrom (block ++ [s]) rest
        else if block.contains .padding then .error .prematurePadding
        else (blocksFrom [s] rest).map (block :: ·)

/-- Four digits make three octets; at the end two digits make one and three make two, and
padding may fill up the four. -/
def octets : List Symbol → Except PemError Octets
  | [] => .ok []
  | [.digit a,.digit b] | [.digit a,.digit b,.padding,.padding] =>
    .ok [UInt8.ofNat (a*4+b/16)]
  | [.digit a,.digit b,.digit c] | [.digit a,.digit b,.digit c,.padding] =>
    .ok [UInt8.ofNat (a*4+b/16),UInt8.ofNat (b*16+c/4)]
  | .digit a :: .digit b :: .digit c :: .digit d :: rest => do
    let tail ← octets rest
    pure (UInt8.ofNat (a*4+b/16) :: UInt8.ofNat (b*16+c/4) :: UInt8.ofNat (c*64+d) :: tail)
  | _ => .error .badPadding

def decode (text : Octets) : Except PemError Octets := do
  octets (← blocksFrom [] text).flatten

/-- The lines with their ends; a line feed and a carriage return each end one. -/
def lines : Octets → List Octets
  | [] => []
  | b :: rest =>
    if b = 10 ∨ b = 13 then [b] :: lines rest
    else
      match lines rest with
      | [] => [[b]]
      | l :: ls => (b :: l) :: ls

def startMark : Octets := Utf8.encode "-----BEGIN "

def endLine (label : Octets) : Octets := Utf8.encode "-----END " ++ label ++ Utf8.encode "-----"

/-- The label of a line that begins a section: what stands before the five hyphens that end
it. -/
def labelOf (line : Octets) : Except PemError Octets :=
  let tail := line.reverse.takeWhile fun b => [10,13,32,45].contains b.toNat
  let hyphens := tail.filter (· = 45)
  let after := (tail.reverse.dropWhile (· ≠ 45)).length
  if hyphens.length = 5 then .ok ((line.take (line.length-after)).drop startMark.length)
  else .error (.badStart line)

structure Progress where
  label : Option Octets := none
  text : Octets := []
  deriving DecidableEq,Repr

def sectionsFrom (p : Progress) : List Octets → List (Kind × Octets) × Option PemError
  | [] => ([],p.label.map .unended)
  | line :: rest =>
    if startMark.isPrefixOf line then
      match labelOf line with
      | .error e => ([],some e)
      | .ok label => sectionsFrom { p with label := some label } rest
    else
      match p.label with
      | none => sectionsFrom p rest
      | some label =>
        if (endLine label).isPrefixOf line then
          match Kind.ofLabel? label with
          | none => sectionsFrom {} rest
          | some kind =>
            match decode p.text with
            | .error e => ([],some e)
            | .ok content =>
              let (found,e) := sectionsFrom {} rest
              ((kind,content) :: found,e)
        else sectionsFrom { p with text := p.text ++ line } rest

def sections (file : Octets) : List (Kind × Octets) × Option PemError :=
  sectionsFrom {} (lines file)

def certificates (file : Octets) : Except PemError (List Octets) :=
  match sections file with
  | (_,some e) => .error e
  | (found,none) => .ok ((found.filter fun s => s.1 = .certificate).map Prod.snd)

/-- The first private key of a file; what follows it does not matter. -/
def privateKey (file : Octets) : Except PemError (Option Octets) :=
  match sections file with
  | (found,e) =>
    match found.find? fun s => s.1.isPrivateKey, e with
    | some s, _ => .ok (some s.2)
    | none, some e => .error e
    | none, none => .ok none

end Pem
end ClusterFramework
