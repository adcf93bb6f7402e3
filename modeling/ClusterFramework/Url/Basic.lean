import ClusterFramework.Network.Address
import ClusterFramework.Text.Utf8

/-! Web addresses taken apart, and their texts. -/
namespace ClusterFramework

namespace Url

inductive Host where
  | domain (name : String)
  | ipv4 (address : Network.Ipv4)
  | ipv6 (address : Network.Ipv6)
  | plain (name : String)
  deriving DecidableEq,Repr

/-- A path behind slashes, if it is not empty, or one that is a single piece of text. -/
inductive Path where
  | slashed (text : String)
  | whole (text : String)
  deriving DecidableEq,Repr

inductive UrlError where
  | noBase
  | emptyHost
  | invalidPort
  | cannotBeABase
  | invalidIpv4
  | invalidIpv6
  | invalidDomain
  | invalidHostCharacter
  deriving DecidableEq,Repr

def UrlError.message : UrlError → String
  | noBase => "relative URL without a base"
  | emptyHost => "empty host"
  | invalidPort => "invalid port number"
  | cannotBeABase => "relative URL with a cannot-be-a-base base"
  | invalidIpv4 => "invalid IPv4 address"
  | invalidIpv6 => "invalid IPv6 address"
  | invalidDomain => "invalid international domain name"
  | invalidHostCharacter => "invalid domain character"

def Host.text : Host → List Char
  | domain name => name.toList
  | ipv4 a => a.text
  | ipv6 a => '[' :: (a.hexText ++ [']'])
  | plain name => name.toList

end Url

/-- The port is kept only if it is not the usual one of the scheme. -/
structure Url where
  scheme : String
  username : String := ""
  password : String := ""
  host : Option Url.Host := none
  port : Option UInt16 := none
  path : Url.Path
  query : Option String := none
  fragment : Option String := none
  deriving DecidableEq,Repr

namespace Url

/-- The schemes whose addresses always name a host, with their usual ports. -/
def usualPorts : List (String × UInt16) :=
  [("http",80),("https",443),("ws",80),("wss",443),("ftp",21)]

def isFile (scheme : String) : Bool := scheme = "file"

def isSpecial (scheme : String) : Bool := (usualPorts.lookup scheme).isSome || isFile scheme

def credentials (u : Url) : List Char :=
  if u.username = "" ∧ u.password = "" then []
  else if u.password = "" then u.username.toList ++ ['@']
  else u.username.toList ++ (':' :: u.password.toList) ++ ['@']

def portText : Option UInt16 → List Char
  | none => []
  | some p => ':' :: Nat.toDigits 10 p.toNat

def authority (u : Url) : List Char :=
  match u.host with
  | none => if isFile u.scheme then ['/','/'] else []
  | some h => '/' :: '/' :: (u.credentials ++ h.text ++ portText u.port)

/-- Where no authority stands before it, a path does not begin like one. -/
def pathText (u : Url) : List Char :=
  match u.path with
  | .whole text => text.toList
  | .slashed text =>
    if u.authority = [] ∧ text.toList.take 2 = ['/','/'] then '/' :: '.' :: text.toList
    else text.toList

def text (u : Url) : String :=
  String.ofList (u.scheme.toList ++ (':' :: u.authority) ++ u.pathText ++
    (match u.query with
    | none => []
    | some q => '?' :: q.toList) ++
    (match u.fragment with
    | none => []
    | some f => '#' :: f.toList))

end Url
end ClusterFramework
